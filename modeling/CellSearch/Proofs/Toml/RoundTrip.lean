import Mathlib
import CellSearch.Proofs.Toml.Scalar

/-!
# Files that are read back

A file is read line by line, and each line that was written for an entry adds this entry to the
table that is open (`Reads.entry`). By induction on the entries, and then on the tables, the
whole file is read (`parse_write`), if the keys need no quotes and no table has one of them
twice.
-/

namespace CellSearch.Toml

variable {key name : String} {d : Document} {entries inner : List (String × Document)}
variable {line lines cs rest word gap : List Char} {c mark : Char}

/-! ## Keys -/

/-- A key that needs no quotes. -/
structure IsBare (key : String) : Prop where
  ne_nil : key.toList ≠ []
  bare : ∀ c ∈ key.toList, isBareKeyChar c = true

instance (key : String) : Decidable (IsBare key) :=
  decidable_of_iff (key.toList ≠ [] ∧ key.toList.all isBareKeyChar = true)
    ⟨fun h => ⟨h.1, List.all_eq_true.mp h.2⟩, fun h => ⟨h.ne_nil, List.all_eq_true.mpr h.bare⟩⟩

/-- The keys of a table need no quotes, and none is there twice. -/
structure Keyed (entries : List (String × Document)) : Prop where
  bare : ∀ e ∈ entries, IsBare e.1
  nodup : (entries.map Prod.fst).Nodup

/-- The keys of a file and of its tables need no quotes, and none is twice in one table. -/
structure KeyedFile (entries : List (String × Document)) : Prop extends Keyed entries where
  inner : ∀ name inner, (name, .table inner) ∈ entries → Keyed inner

theorem keyed_of_names (names : List String) (hnames : entries.map Prod.fst = names)
    (hbare : ∀ name ∈ names, IsBare name) (hnodup : names.Nodup) : Keyed entries := by
  refine ⟨?_, hnames ▸ hnodup⟩
  intro e he
  refine hbare e.1 ?_
  rw [← hnames]
  exact List.mem_map_of_mem he

theorem Keyed.tail {e : String × Document} (h : Keyed (e :: entries)) : Keyed entries :=
  ⟨fun e' he' => h.bare e' (List.mem_cons_of_mem e he'), (List.nodup_cons.mp h.nodup).2⟩

theorem Keyed.sublist (h : Keyed entries) {fewer : List (String × Document)}
    (hfewer : fewer.Sublist entries) : Keyed fewer :=
  ⟨fun e he => h.bare e (hfewer.subset he), h.nodup.sublist (hfewer.map Prod.fst)⟩

/-- No character of a bare key has a meaning of its own. -/
theorem ne_of_isBareKeyChar (hc : isBareKeyChar c = true) {other : Char}
    (hother : isBareKeyChar other = false) : c ≠ other := by
  rintro rfl
  rw [hc] at hother
  cases hother

theorem isBlank_of_isBareKeyChar (hc : isBareKeyChar c = true) : isBlank c = false := by
  have hspace : c ≠ ' ' := ne_of_isBareKeyChar hc (by decide)
  have htab : c ≠ '\t' := ne_of_isBareKeyChar hc (by decide)
  simp [isBlank, hspace, htab]

theorem IsBare.exists_cons (h : IsBare key) :
    ∃ c more, key.toList = c :: more ∧ isBareKeyChar c = true := by
  cases hkey : key.toList with
  | nil => exact absurd hkey h.ne_nil
  | cons c more => exact ⟨c, more, rfl, h.bare c (hkey ▸ List.mem_cons_self)⟩

theorem IsBare.readKeyPart_append (h : IsBare key) (hmark : isBareKeyChar mark = false) :
    readKeyPart (key.toList ++ mark :: rest) = some (key.toList, mark :: rest) := by
  have hcut : (key.toList ++ mark :: rest).takeWhile isBareKeyChar = key.toList ∧
      (key.toList ++ mark :: rest).dropWhile isBareKeyChar = mark :: rest :=
    cut_append_cons h.bare hmark
  rcases hcut with ⟨htake, hdrop⟩
  -- a key in quotes begins otherwise
  rcases h.exists_cons with ⟨c, more, hkey, hc⟩
  rw [hkey] at htake hdrop ⊢
  unfold readKeyPart
  split
  · rename_i heq
    cases heq
    exact absurd hc (by decide)
  · rename_i heq
    cases heq
    exact absurd hc (by decide)
  · rw [htake, hdrop]

/-- A key is read up to the sign after it, with a blank between the two or not. -/
theorem IsBare.readKey_append (h : IsBare key) (gap : List Char)
    (hgap : ∀ c ∈ gap, isBlank c = true)
    (hmark : isBareKeyChar mark = false ∧ isBlank mark = false ∧ mark ≠ '.') (fuel : Nat) :
    readKey (fuel + 1) (key.toList ++ (gap ++ mark :: rest)) = some ([key], mark :: rest) := by
  rcases hmark with ⟨hbare, hblank, hdot⟩
  have hafter : (gap ++ mark :: rest).dropWhile isBlank = mark :: rest :=
    (cut_append_cons hgap hblank).2
  have hpart : readKeyPart (key.toList ++ (gap ++ mark :: rest)) =
      some (key.toList, gap ++ mark :: rest) := by
    cases gap with
    | nil => exact h.readKeyPart_append hbare
    | cons b gap =>
      refine h.readKeyPart_append ?_
      have hb := hgap b List.mem_cons_self
      rw [Bool.eq_false_iff]
      intro hbare'
      rw [isBlank_of_isBareKeyChar hbare'] at hb
      cases hb
  have hbefore : (key.toList ++ (gap ++ mark :: rest)).dropWhile isBlank =
      key.toList ++ (gap ++ mark :: rest) := by
    rcases h.exists_cons with ⟨c, more, hkey, hc⟩
    rw [hkey, List.cons_append,
      List.dropWhile_cons_of_neg (by simp [isBlank_of_isBareKeyChar hc])]
  simp only [readKey, hbefore, hpart, hafter, String.ofList_toList]
  split
  · rename_i heq
    cases heq
    exact absurd rfl hdot
  · rename_i heq
    rfl

/-! ## Lines -/

theorem afterGap?_feed (fuel : Nat) (rest : List Char) :
    afterGap? (fuel + 1) ('\n' :: rest) = afterGap? fuel rest := by
  rw [afterGap?, List.dropWhile_cons_of_neg (by decide)]
  rfl

/-- What is neither blank nor a comment is where a line begins. -/
theorem afterGap?_cons (hc : isBlank c = false ∧ c ≠ '\n' ∧ c ≠ '\r' ∧ c ≠ '#') (fuel : Nat) :
    afterGap? (fuel + 1) (c :: rest) = some (c :: rest) := by
  rcases hc with ⟨hblank, hfeed, hreturn, hcomment⟩
  rw [afterGap?, List.dropWhile_cons_of_neg (by simp [hblank])]
  split
  · rename_i heq
    cases heq
    exact absurd rfl hfeed
  · rename_i heq
    cases heq
    exact absurd rfl hreturn
  · rename_i heq
    cases heq
    exact absurd rfl hcomment
  · rfl

theorem afterLine?_feed (rest : List Char) : afterLine? ('\n' :: rest) = some rest := by
  rw [afterLine?, List.dropWhile_cons_of_neg (by decide)]
  rfl

theorem writeEntry?_eq_some : writeEntry? (key, d) = some line ↔
    ∃ word, writeValue? d = some word ∧
      line = key.toList ++ ' ' :: '=' :: ' ' :: word ++ ['\n'] := by
  simp [ writeEntry?, eq_comm]

/-- The line of an entry puts the entry into the table that is open. -/
theorem readPair_writeEntry {s : State} {root : Entries} (hkey : IsBare key)
    (hline : writeEntry? (key, d) = some line)
    (hroot : Entries.assignAt [key] d s.path s.root = some root) (rest : List Char) :
    readPair s (line ++ rest) = some (⟨root, s.path⟩, rest) := by
  rcases writeEntry?_eq_some.mp hline with ⟨word, hword, rfl⟩
  rcases (writeValue?_oneLine hword).1 with ⟨c, more, rfl, hc⟩
  have hcs : key.toList ++ ' ' :: '=' :: ' ' :: (c :: more) ++ ['\n'] ++ rest =
      key.toList ++ ([' '] ++ '=' :: ' ' :: (c :: more ++ '\n' :: rest)) := by
    simp
  have hread : ∀ fuel, readKey (fuel + 1)
      (key.toList ++ ([' '] ++ '=' :: ' ' :: (c :: more ++ '\n' :: rest))) =
        some ([key], '=' :: ' ' :: (c :: more ++ '\n' :: rest)) :=
    hkey.readKey_append [' '] (by simp [isBlank]) (by decide)
  have hblank : (' ' :: (c :: more ++ '\n' :: rest)).dropWhile isBlank =
      c :: more ++ '\n' :: rest := by
    rw [List.dropWhile_cons_of_pos (by decide), List.cons_append,
      List.dropWhile_cons_of_neg (by simp [hc])]
  have hvalue := readValue_write hword (' ' :: (c :: more ++ '\n' :: rest)).length rest
  rw [hcs, readPair, hread]
  simp only [hblank, hvalue, hroot, afterLine?_feed]

/-- The header of a table opens the table. -/
theorem readHeader_bare {s : State} {root : Entries} (hname : IsBare name)
    (hroot : Entries.openTable [name] s.root = some root) (rest : List Char) :
    readHeader s (name.toList ++ ']' :: '\n' :: rest) = some (⟨root, [name]⟩, rest) := by
  have hread : readKey ((name.toList ++ ']' :: '\n' :: rest).length + 1)
      (name.toList ++ ']' :: '\n' :: rest) = some ([name], ']' :: '\n' :: rest) :=
    hname.readKey_append [] (by simp) (by decide) _
  rcases hname.exists_cons with ⟨c, more, hcons, hc⟩
  unfold readHeader
  split
  · rename_i heq
    rw [hcons] at heq
    cases heq
    exact absurd hc (by decide)
  · rw [hread]
    simp only [hroot, afterLine?_feed]

/-! ## Reading line by line -/

/-- With fuel for every character the lines are read, and leave these entries at the top. -/
def Reads (s : State) (cs : List Char) (root : Entries) : Prop :=
  ∀ fuel, cs.length < fuel → (readFile fuel s cs).map State.root = some root

variable {root final : Entries} {path : List String}

theorem reads_nil : Reads ⟨root, path⟩ [] root := by
  intro fuel hfuel
  cases fuel with
  | zero => cases hfuel
  | succ fuel => rfl

/-- Blank lines are skipped. -/
theorem Reads.feed {s : State} (h : Reads s cs final) : Reads s ('\n' :: cs) final := by
  intro fuel hfuel
  cases fuel with
  | zero => cases hfuel
  | succ fuel =>
    have hread := h (fuel + 1) (by rw [List.length_cons] at hfuel; omega)
    rw [readFile] at hread ⊢
    rw [List.length_cons, afterGap?_feed]
    exact hread

/-- A step of the reader takes one unit of fuel and at least one character. -/
theorem Reads.of_step {s s' : State}
    (hstep : ∀ fuel, readFile (fuel + 1) s cs = readFile fuel s' rest)
    (hlt : rest.length < cs.length) (h : Reads s' rest final) : Reads s cs final := by
  intro fuel hfuel
  cases fuel with
  | zero => cases hfuel
  | succ fuel =>
    rw [hstep]
    exact h fuel (by omega)

theorem Reads.entry (hkey : IsBare key) (hline : writeEntry? (key, d) = some line)
    {s : State} {root : Entries} (hroot : Entries.assignAt [key] d s.path s.root = some root)
    (h : Reads ⟨root, s.path⟩ rest final) : Reads s (line ++ rest) final := by
  have hread := readPair_writeEntry hkey hline hroot rest
  rcases writeEntry?_eq_some.mp hline with ⟨word, -, rfl⟩
  refine Reads.of_step (fun fuel => ?_) (by simp; omega) h
  -- the reader sees the first character of the key, and takes the line for a pair
  rcases hkey.exists_cons with ⟨c, more, hcons, hc⟩
  have hstart : isBlank c = false ∧ c ≠ '\n' ∧ c ≠ '\r' ∧ c ≠ '#' :=
    ⟨isBlank_of_isBareKeyChar hc, ne_of_isBareKeyChar hc (by decide),
      ne_of_isBareKeyChar hc (by decide), ne_of_isBareKeyChar hc (by decide)⟩
  rw [hcons, List.cons_append, List.cons_append, List.cons_append] at hread ⊢
  rw [readFile, afterGap?_cons hstart]
  split
  · rename_i heq
    cases heq
  · rename_i heq
    cases heq
  · rename_i heq
    cases heq
    exact absurd hc (by decide)
  · rename_i heq
    cases heq
    rw [hread]

theorem Reads.header (hname : IsBare name) {s : State} {root : Entries}
    (hroot : Entries.openTable [name] s.root = some root)
    (h : Reads ⟨root, [name]⟩ rest final) :
    Reads s ('[' :: (name.toList ++ ']' :: '\n' :: rest)) final := by
  refine Reads.of_step (fun fuel => ?_) (by simp; omega) h
  rw [readFile, afterGap?_cons (by decide)]
  split
  · rename_i heq
    cases heq
  · rename_i heq
    cases heq
  · rename_i heq
    cases heq
    rw [readHeader_bare hname hroot rest]
  · rename_i hother heq
    cases heq
    exact absurd rfl (hother _)

/-! ## Tables -/

/-- The nodes of values. -/
def valueNodes (entries : List (String × Document)) : Entries :=
  entries.map fun e => (e.1, .value e.2)

/-- The node of a written table, or of a value. -/
def writtenNode : Document → Node
  | .table entries => .table .header (valueNodes entries)
  | d => .value d

/-- A path that leads to the place where the entries given to `plug` stand: a value is put behind
them. -/
def LeadsTo (path : List String) (plug : Entries → Entries) : Prop :=
  ∀ entries key d, entries.lookup key = none →
    Entries.assignAt [key] d path (plug entries) = some (plug (entries ++ [(key, .value d)]))

theorem leadsTo_top : LeadsTo [] id := by
  intro entries key d hkey
  simp only [Entries.assignAt, Entries.assign, id, hkey]

theorem set_append_of_lookup {before : Entries} {node node' : Node}
    (h : before.lookup name = none) :
    Entries.set (before ++ [(name, node)]) name node' = before ++ [(name, node')] := by
  have hsame : before.map (fun e => if e.1 = name then (e.1, node') else (e.1, e.2)) = before := by
    rw [List.map_congr_left, List.map_id]
    intro e he
    have hne := List.lookup_eq_none_iff.mp h e he
    rw [bne_iff_ne] at hne
    rw [if_neg hne.symm]
    rfl
  rw [Entries.set, List.map_append, hsame]
  simp

theorem leadsTo_table {before : Entries} (h : before.lookup name = none) :
    LeadsTo [name] fun entries => before ++ [(name, .table .header entries)] := by
  intro entries key d hkey
  have hname : (before ++ [(name, Node.table .header entries)]).lookup name =
      some (.table .header entries) := by
    rw [List.lookup_append, h, Option.none_or, List.lookup_cons_self]
  simp only [Entries.assignAt, hname, Entries.assign, hkey, Option.map_some,
    set_append_of_lookup h]

theorem mapM_cons_eq_some {α β : Type} {f : α → Option β} {x : α} {xs : List α} {ys : List β} :
    (x :: xs).mapM f = some ys ↔
      ∃ y more, f x = some y ∧ xs.mapM f = some more ∧ ys = y :: more := by
  simp only [List.mapM_cons, Option.bind_eq_bind, Option.bind_eq_some_iff, Option.pure_def,
    Option.some.injEq]
  constructor
  · rintro ⟨y, hy, more, hmore, rfl⟩
    exact ⟨y, more, hy, hmore, rfl⟩
  · rintro ⟨y, more, hy, hmore, rfl⟩
    exact ⟨y, hy, more, hmore, rfl⟩

theorem writeEntries?_cons {e : String × Document} :
    writeEntries? (e :: entries) = some lines ↔ ∃ line more, writeEntry? e = some line ∧
      writeEntries? entries = some more ∧ lines = line ++ more := by
  simp only [writeEntries?, Option.map_eq_some_iff, mapM_cons_eq_some]
  constructor
  · rintro ⟨_, ⟨line, more, hline, hmore, rfl⟩, rfl⟩
    exact ⟨line, more.flatten, hline, ⟨more, hmore, rfl⟩, List.flatten_cons⟩
  · rintro ⟨line, _, hline, ⟨more, hmore, rfl⟩, rfl⟩
    exact ⟨line :: more, ⟨line, more, hline, hmore, rfl⟩, List.flatten_cons⟩

/-- The entries of a table can be written if each of their values can. -/
theorem exists_writeEntries?_iff : (∃ lines, writeEntries? entries = some lines) ↔
    ∀ e ∈ entries, ∃ word, writeValue? e.2 = some word := by
  induction entries with
  | nil => simp [writeEntries?]
  | cons e entries ih =>
    rw [List.forall_mem_cons, ← ih]
    constructor
    · rintro ⟨lines, hlines⟩
      rcases writeEntries?_cons.mp hlines with ⟨line, more, hline, hmore, -⟩
      rcases writeEntry?_eq_some.mp hline with ⟨word, hword, -⟩
      exact ⟨⟨word, hword⟩, more, hmore⟩
    · rintro ⟨⟨word, hword⟩, more, hmore⟩
      have hline : writeEntry? (e.1, e.2) = some _ := writeEntry?_eq_some.mpr ⟨word, hword, rfl⟩
      exact ⟨_, writeEntries?_cons.mpr ⟨_, more, hline, hmore, rfl⟩⟩

/-- The keys that are still to come are not taken by the one that is put in before them. -/
theorem Keyed.fresh {e : String × Document} (h : Keyed (e :: entries)) {before : Entries}
    {node : Node} (hfresh : ∀ e' ∈ e :: entries, before.lookup e'.1 = none) :
    ∀ e' ∈ entries, (before ++ [(e.1, node)]).lookup e'.1 = none := by
  intro e' he'
  have hmem : e'.1 ∈ entries.map Prod.fst := List.mem_map_of_mem he'
  have hne : e'.1 ≠ e.1 := by
    intro heq
    rw [heq] at hmem
    exact (List.nodup_cons.mp h.nodup).1 hmem
  rw [List.lookup_append, hfresh e' (List.mem_cons_of_mem e he')]
  simp [List.lookup, beq_eq_false_iff_ne.mpr hne]

/-- The lines of a table put all of its entries behind those that are there. -/
theorem reads_writeEntries {plug : Entries → Entries} (hplug : LeadsTo path plug)
    (before : Entries)
    (hkeyed : Keyed entries) (hfresh : ∀ e ∈ entries, before.lookup e.1 = none)
    (hlines : writeEntries? entries = some lines)
    (h : Reads ⟨plug (before ++ valueNodes entries), path⟩ rest final) :
    Reads ⟨plug before, path⟩ (lines ++ rest) final := by
  induction entries generalizing before lines with
  | nil =>
    cases hlines
    simpa [valueNodes] using h
  | cons e entries ih =>
    rcases writeEntries?_cons.mp hlines with ⟨line, more, hline, hmore, rfl⟩
    rw [List.append_assoc]
    -- the first line puts its entry behind those before it, and the others go on from there
    have hroot := hplug before e.1 e.2 (hfresh e List.mem_cons_self)
    refine Reads.entry (hkeyed.bare e List.mem_cons_self) hline hroot ?_
    refine ih _ hkeyed.tail (hkeyed.fresh hfresh) hmore ?_
    rw [List.append_assoc]
    exact h

theorem writeTable?_eq_some {e : String × Document} :
    writeTable? e = some lines ↔ ∃ inner more, e.2 = .table inner ∧
      writeEntries? inner = some more ∧
      lines = '\n' :: '[' :: (e.1.toList ++ ']' :: '\n' :: more) := by
  unfold writeTable?
  split
  · rename_i inner hinner
    rw [hinner]
    simp [eq_comm]
  · rename_i hother
    constructor
    · intro h
      cases h
    · rintro ⟨inner, more, hinner, -, -⟩
      exact absurd hinner (hother inner)

/-- The lines of the tables put all of them behind what is there. -/
theorem reads_writeTables {tables : List (String × Document)} {blocks : List (List Char)}
    (hkeyed : Keyed tables) (hinner : ∀ name inner, (name, .table inner) ∈ tables → Keyed inner)
    (hfresh : ∀ e ∈ tables, root.lookup e.1 = none)
    (hblocks : tables.mapM writeTable? = some blocks)
    (h : ∀ path, Reads ⟨root ++ tables.map fun e => (e.1, writtenNode e.2), path⟩ rest final) :
    Reads ⟨root, path⟩ (blocks.flatten ++ rest) final := by
  induction tables generalizing root path blocks with
  | nil =>
    cases hblocks
    simpa using h path
  | cons e tables ih =>
    rcases mapM_cons_eq_some.mp hblocks with ⟨block, more, hblock, hmore, rfl⟩
    rcases e with ⟨name, d⟩
    rcases writeTable?_eq_some.mp hblock with ⟨inner, lines, rfl, hlines, rfl⟩
    have hname := hfresh _ List.mem_cons_self
    have hopen : Entries.openTable [name] root = some (root ++ [(name, .table .header [])]) := by
      simp only [Entries.openTable, hname]
    rw [List.flatten_cons, List.append_assoc]
    simp only [List.cons_append, List.append_assoc]
    -- a blank line, the header, and then the lines of the table
    refine Reads.feed (Reads.header (hkeyed.bare _ List.mem_cons_self) hopen ?_)
    refine reads_writeEntries (leadsTo_table hname) []
      (hinner name inner List.mem_cons_self) (fun _ _ => rfl) hlines ?_
    refine ih hkeyed.tail (fun name inner hmem => hinner name inner (List.mem_cons_of_mem _ hmem))
      (hkeyed.fresh hfresh) hmore ?_
    intro path
    rw [List.append_assoc]
    exact h path

/-! ## Files -/

theorem documentEntries_append (a b : Entries) :
    Node.documentEntries (a ++ b) = Node.documentEntries a ++ Node.documentEntries b := by
  induction a with
  | nil => rfl
  | cons e a ih =>
    rcases e with ⟨key, node⟩
    rw [List.cons_append, Node.documentEntries, Node.documentEntries, ih, List.cons_append]

theorem documentEntries_valueNodes (entries : List (String × Document)) :
    Node.documentEntries (valueNodes entries) = entries := by
  induction entries with
  | nil => rfl
  | cons e entries ih =>
    rw [valueNodes] at ih ⊢
    rw [List.map_cons, Node.documentEntries, ih, Node.toDocument]

theorem toDocument_writtenNode (d : Document) : (writtenNode d).toDocument = d := by
  unfold writtenNode
  split
  · rw [Node.toDocument, documentEntries_valueNodes]
  · rw [Node.toDocument]

theorem documentEntries_writtenNode (entries : List (String × Document)) :
    Node.documentEntries (entries.map fun e => (e.1, writtenNode e.2)) = entries := by
  induction entries with
  | nil => rfl
  | cons e entries ih => rw [List.map_cons, Node.documentEntries, ih, toDocument_writtenNode]

/-- A file that does not begin with a byte order mark is read from its first character. -/
theorem Reads.parse_eq (h : Reads ⟨[], []⟩ cs final) (hmark : cs.head? ≠ some '\ufeff') :
    parse cs = some (.table (Node.documentEntries final)) := by
  have hread := h (cs.length + 1) (Nat.lt_succ_self _)
  rcases Option.map_eq_some_iff.mp hread with ⟨s, hs, rfl⟩
  unfold parse
  split
  · exact absurd rfl hmark
  · simp only [hs, Option.map_some, Node.toDocument]

/-- The values of a document, without its tables. -/
def valuesOf (entries : List (String × Document)) : List (String × Document) :=
  entries.filter fun e => !isTable e.2

/-- The tables of a document. -/
def tablesOf (entries : List (String × Document)) : List (String × Document) :=
  entries.filter fun e => isTable e.2

theorem valuesOf_eq_self (h : ∀ e ∈ entries, isTable e.2 = false) : valuesOf entries = entries :=
  List.filter_eq_self.mpr fun e he => by rw [h e he, Bool.not_false]

theorem tablesOf_eq_nil (h : ∀ e ∈ entries, isTable e.2 = false) : tablesOf entries = [] :=
  List.filter_eq_nil_iff.mpr fun e he => by rw [h e he]; decide

theorem write?_eq_some {file : List Char} : write? (.table entries) = some file ↔
    ∃ top blocks, writeEntries? (valuesOf entries) = some top ∧
      (tablesOf entries).mapM writeTable? = some blocks ∧ file = top ++ blocks.flatten := by
  simp only [write?, valuesOf, tablesOf, Option.bind_eq_bind, Option.bind_eq_some_iff,
    Option.pure_def, Option.some.injEq]
  constructor
  · rintro ⟨top, htop, blocks, hblocks, rfl⟩
    exact ⟨top, blocks, htop, hblocks, rfl⟩
  · rintro ⟨top, blocks, htop, hblocks, rfl⟩
    exact ⟨top, htop, blocks, hblocks, rfl⟩

theorem reads_replicate (blank : Nat) : Reads ⟨root, path⟩ (List.replicate blank '\n') root := by
  induction blank with
  | zero => exact reads_nil
  | succ blank ih => exact ih.feed

/-- The name of a table is not the key of a value. -/
theorem Keyed.lookup_valuesOf (h : Keyed entries) {e : String × Document}
    (he : e ∈ tablesOf entries) : (valueNodes (valuesOf entries)).lookup e.1 = none := by
  rw [List.lookup_eq_none_iff]
  intro p hp
  rcases List.mem_map.mp hp with ⟨e', he', rfl⟩
  rcases List.mem_filter.mp he with ⟨hmem, htable⟩
  rcases List.mem_filter.mp he' with ⟨hmem', hvalue⟩
  rw [bne_iff_ne]
  intro heq
  have hsame : e = e' := List.inj_on_of_nodup_map h.nodup hmem hmem' heq
  rw [hsame] at htable
  rw [htable] at hvalue
  cases hvalue

/-- A written file begins with a key, a blank line or nothing. -/
theorem head?_write {top : List Char} {blocks : List (List Char)}
    {tables : List (String × Document)} (hkeyed : Keyed entries)
    (htop : writeEntries? entries = some top) (hblocks : tables.mapM writeTable? = some blocks)
    (blank : Nat) :
    (top ++ (blocks.flatten ++ List.replicate blank '\n')).head? ≠ some '\ufeff' := by
  intro hhead
  cases entries with
  | cons e entries =>
    rcases writeEntries?_cons.mp htop with ⟨line, more, hline, -, rfl⟩
    rcases writeEntry?_eq_some.mp hline with ⟨word, -, rfl⟩
    rcases (hkeyed.bare e List.mem_cons_self).exists_cons with ⟨c, tail, hcons, hc⟩
    rw [hcons] at hhead
    cases hhead
    exact absurd hc (by decide)
  | nil =>
    cases htop
    cases tables with
    | nil =>
      cases hblocks
      cases blank with
      | zero => cases hhead
      | succ blank => exact absurd (Option.some.inj hhead) (by decide)
    | cons e tables =>
      rcases mapM_cons_eq_some.mp hblocks with ⟨block, more, hblock, -, rfl⟩
      rcases writeTable?_eq_some.mp hblock with ⟨inner, lines, -, -, rfl⟩
      exact absurd (Option.some.inj hhead) (by decide)

/-- A written file is read as the document that it was written for, with the tables behind the
values. Blank lines at the end change nothing. -/
theorem parse_write {file : List Char} (hkeyed : KeyedFile entries)
    (hfile : write? (.table entries) = some file) (blank : Nat) :
    parse (file ++ List.replicate blank '\n') =
      some (.table (valuesOf entries ++ tablesOf entries)) := by
  rcases write?_eq_some.mp hfile with ⟨top, blocks, htop, hblocks, rfl⟩
  have hvalues : Keyed (valuesOf entries) := hkeyed.toKeyed.sublist List.filter_sublist
  have htables : Keyed (tablesOf entries) := hkeyed.toKeyed.sublist List.filter_sublist
  have hreads : Reads ⟨[], []⟩ (top ++ (blocks.flatten ++ List.replicate blank '\n'))
      (valueNodes (valuesOf entries) ++
        (tablesOf entries).map fun e => (e.1, writtenNode e.2)) := by
    refine reads_writeEntries leadsTo_top [] hvalues (fun _ _ => rfl) htop ?_
    refine reads_writeTables htables ?_ ?_ hblocks fun path => ?_
    · intro name inner hmem
      exact hkeyed.inner name inner (List.mem_filter.mp hmem).1
    · exact fun e he => hkeyed.toKeyed.lookup_valuesOf he
    · exact reads_replicate blank
  rw [List.append_assoc, hreads.parse_eq (head?_write hvalues htop hblocks blank),
    documentEntries_append, documentEntries_valueNodes, documentEntries_writtenNode]

end CellSearch.Toml
