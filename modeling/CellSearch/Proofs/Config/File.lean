import Mathlib
import CellSearch.Config.File
import CellSearch.Proofs.Toml.Delete

/-!
# Saved configurations

A configuration is saved with every field, each under a key of its own, and a field whose key is
missing has its default. What a saved file holds is read again (`load_save`): all of it, or what
is left after some keys or the whole table of flags are deleted.
-/

namespace CellSearch

open Document Toml

/-! ## Values -/

theorem Document.bool?_bool (b : Bool) : bool? (.bool b) = some b := rfl

theorem Document.size?_integer {n : Nat} (h : n < 0x8000000000000000) :
    size? (.integer n) = some n := by
  rw [size?, if_pos (by omega), Int.toNat_natCast]

/-- A text that can be written without escapes, and is the name of a variant. -/
structure Names {α : Type} (ofName? : String → Option α) (name : String) (a : α) : Prop where
  ofName?_eq : ofName? name = some a
  plain : name.toList.all isPlainChar = true

theorem Names.variant?_eq {α : Type} {ofName? : String → Option α} {name : String} {a : α}
    (h : Names ofName? name a) : variant? false ofName? (.text name) = some a :=
  h.ofName?_eq

theorem Names.exists_writeValue? {α : Type} {ofName? : String → Option α} {name : String} {a : α}
    (h : Names ofName? name a) : ∃ word, writeValue? (.text name) = some word := by
  rw [writeValue?, if_pos h.plain]
  exact ⟨_, rfl⟩

theorem MatchMode.names (m : MatchMode) : Names ofName? m.name m := by
  cases m <;> exact ⟨rfl, rfl⟩

theorem TermMode.names (m : TermMode) : Names ofName? m.name m := by
  cases m <;> exact ⟨rfl, rfl⟩

theorem CaseSensitivity.names (c : CaseSensitivity) : Names ofName? c.name c := by
  cases c <;> exact ⟨rfl, rfl⟩

theorem MissingAccessorPolicy.names (p : MissingAccessorPolicy) : Names ofName? p.name p := by
  cases p <;> exact ⟨rfl, rfl⟩

/-! ## Entries that are left -/

section Entries

variable {α : Type} {entries others : List (String × Document)} {keys : List String}
variable {key : String} {d : Document} {read : Document → Option α} {value default : α}

theorem lookup_eraseKeys : (eraseKeys keys entries).lookup key =
    if key ∈ keys then none else entries.lookup key := by
  induction entries with
  | nil => simp [eraseKeys]
  | cons e entries ih =>
    by_cases hmem : e.1 ∈ keys
    · rw [eraseKeys_cons_of_mem hmem, ih]
      split
      · rfl
      · rename_i hkey
        have hne : key ≠ e.1 := by
          rintro rfl
          exact hkey hmem
        rw [List.lookup_cons, beq_eq_false_iff_ne.mpr hne]
    · rw [eraseKeys_cons_of_notMem hmem, List.lookup_cons, List.lookup_cons, ih]
      by_cases hkey : key = e.1
      · rw [hkey, beq_self_eq_true, if_neg hmem, if_neg hmem]
      · rw [beq_eq_false_iff_ne.mpr hkey]

/-- An entry that was written is read, if its key is left, and otherwise has its default. -/
theorem entry_eraseKeys (key : String) (hentry : entries.lookup key = some d)
    (hread : read d = some value) (hothers : others.lookup key = none) :
    entry (eraseKeys keys entries ++ others) key read default =
      some (if key ∈ keys then default else value) := by
  rw [entry, List.lookup_append, lookup_eraseKeys, hothers, Option.or_none]
  by_cases hkey : key ∈ keys
  · rw [if_pos hkey, if_pos hkey]
  · rw [if_neg hkey, if_neg hkey, hentry]
    exact hread

end Entries

/-! ## Flags -/

namespace DescriptorDefaults

/-- The flags, of which those with some keys have their defaults. -/
def without (keys : List String) (d : DescriptorDefaults) : DescriptorDefaults :=
  let plain : DescriptorDefaults := {}
  { mode := if "mode" ∈ keys then plain.mode else d.mode
    termMode := if "term_mode" ∈ keys then plain.termMode else d.termMode
    case := if "case" ∈ keys then plain.case else d.case
    wholeWord := if "whole_word" ∈ keys then plain.wholeWord else d.wholeWord
    normalizeWhiteSpace :=
      if "normalize_whitespace" ∈ keys then plain.normalizeWhiteSpace else d.normalizeWhiteSpace
    ignoreDiacritics :=
      if "ignore_diacritics" ∈ keys then plain.ignoreDiacritics else d.ignoreDiacritics
    allowEmpty := if "allow_empty" ∈ keys then plain.allowEmpty else d.allowEmpty }

/-- The entries of the flags. -/
def entries (d : DescriptorDefaults) : List (String × Document) :=
  [("mode", .text d.mode.name), ("term_mode", .text d.termMode.name),
    ("case", .text d.case.name), ("whole_word", .bool d.wholeWord),
    ("normalize_whitespace", .bool d.normalizeWhiteSpace),
    ("ignore_diacritics", .bool d.ignoreDiacritics), ("allow_empty", .bool d.allowEmpty)]

theorem toDocument_eq (d : DescriptorDefaults) : d.toDocument = .table d.entries := rfl

/-- The written flags without some keys are read as the flags without these fields. -/
theorem ofDocument?_pruned (keys : List String) (d : DescriptorDefaults) :
    ofDocument? false (pruned keys d.toDocument) = some (d.without keys) := by
  rw [toDocument_eq, pruned, ← List.append_nil (eraseKeys keys _)]
  simp only [ofDocument?, record?, Option.bind_eq_bind, Option.bind_some, Option.pure_def]
  rw [entry_eraseKeys "mode" rfl d.mode.names.variant?_eq rfl,
    entry_eraseKeys "term_mode" rfl d.termMode.names.variant?_eq rfl,
    entry_eraseKeys "case" rfl d.case.names.variant?_eq rfl,
    entry_eraseKeys "whole_word" rfl (bool?_bool _) rfl,
    entry_eraseKeys "normalize_whitespace" rfl (bool?_bool _) rfl,
    entry_eraseKeys "ignore_diacritics" rfl (bool?_bool _) rfl,
    entry_eraseKeys "allow_empty" rfl (bool?_bool _) rfl]
  rfl

/-- Flags can always be written. -/
theorem exists_writeTable? (d : DescriptorDefaults) :
    ∃ block, writeTable? ("defaults", d.toDocument) = some block := by
  have hvalues : ∃ lines, writeEntries? d.entries = some lines := by
    simp only [exists_writeEntries?_iff, entries, List.forall_mem_cons]
    exact ⟨d.mode.names.exists_writeValue?, d.termMode.names.exists_writeValue?,
      d.case.names.exists_writeValue?, ⟨_, rfl⟩, ⟨_, rfl⟩, ⟨_, rfl⟩, ⟨_, rfl⟩, by simp⟩
  rcases hvalues with ⟨lines, hlines⟩
  exact ⟨_, writeTable?_eq_some.mpr ⟨_, lines, rfl, hlines, rfl⟩⟩

end DescriptorDefaults

/-! ## Configurations -/

namespace EngineConfig

/-- The configuration, of which the fields with some keys have their defaults. -/
def without (keys : List String) (c : EngineConfig) : EngineConfig :=
  let plain : EngineConfig := {}
  { trackItemChanges :=
      if "track_item_changes" ∈ keys then plain.trackItemChanges else c.trackItemChanges
    missingAccessor :=
      if "missing_accessor" ∈ keys then plain.missingAccessor else c.missingAccessor
    preparedCacheSize :=
      if "prepared_cache_size" ∈ keys then plain.preparedCacheSize else c.preparedCacheSize
    maxPendingEdits :=
      if "max_pending_edits" ∈ keys then plain.maxPendingEdits else c.maxPendingEdits
    defaults := c.defaults.without keys }

/-- The entries of a configuration, without the flags. -/
def valueEntries (c : EngineConfig) : List (String × Document) :=
  [("track_item_changes", .bool c.trackItemChanges),
    ("missing_accessor", .text c.missingAccessor.name),
    ("prepared_cache_size", .integer c.preparedCacheSize),
    ("max_pending_edits", .integer c.maxPendingEdits)]

/-- All entries of a configuration. -/
def entries (c : EngineConfig) : List (String × Document) :=
  c.valueEntries ++ [("defaults", c.defaults.toDocument)]

theorem toDocument_eq (c : EngineConfig) : c.toDocument = .table c.entries := rfl

theorem valuesOf_entries (c : EngineConfig) : valuesOf c.entries = c.valueEntries := rfl

theorem tablesOf_entries (c : EngineConfig) :
    tablesOf c.entries = [("defaults", c.defaults.toDocument)] := rfl

/-- Both sizes have a written form. -/
def Fits (c : EngineConfig) : Prop :=
  c.preparedCacheSize < 0x8000000000000000 ∧ c.maxPendingEdits < 0x8000000000000000

/-- The fields whose keys are left are read, and the others have their defaults. The flags are those
of the table, if there is one. -/
theorem ofDocument?_eraseKeys {c : EngineConfig} (hc : c.Fits) (keys : List String)
    {others : List (String × Document)} {defaults : DescriptorDefaults}
    (hothers : ∀ key ∈ ["track_item_changes", "missing_accessor", "prepared_cache_size",
      "max_pending_edits"], others.lookup key = none)
    (hdefaults : entry others "defaults" (DescriptorDefaults.ofDocument? false) {} =
      some defaults) :
    ofDocument? false (.table (eraseKeys keys c.valueEntries ++ others)) =
      some { c.without keys with defaults := defaults } := by
  -- no value has the name of the table, so that it is found behind them or not at all
  have htable : entry (eraseKeys keys c.valueEntries ++ others) "defaults"
      (DescriptorDefaults.ofDocument? false) {} = some defaults := by
    rw [← hdefaults, entry, entry, List.lookup_append, lookup_eraseKeys]
    have hnone : c.valueEntries.lookup "defaults" = none := rfl
    rw [hnone, ite_self, Option.none_or]
  simp only [ofDocument?, record?, Option.bind_eq_bind, Option.bind_some, Option.pure_def, htable]
  rw [entry_eraseKeys "track_item_changes" rfl (bool?_bool _) (hothers _ (by simp)),
    entry_eraseKeys "missing_accessor" rfl c.missingAccessor.names.variant?_eq
      (hothers _ (by simp)),
    entry_eraseKeys "prepared_cache_size" rfl (size?_integer hc.1)
      (hothers _ (by simp)),
    entry_eraseKeys "max_pending_edits" rfl (size?_integer hc.2) (hothers _ (by simp))]
  rfl

/-! ## Files -/

/-- The keys of a configuration need no quotes, and no two fields share one. -/
theorem keyedFile (c : EngineConfig) : KeyedFile c.entries := by
  refine ⟨?_, ?_⟩
  · exact keyed_of_names ["track_item_changes", "missing_accessor", "prepared_cache_size",
      "max_pending_edits", "defaults"] rfl (by decide +kernel) (by decide)
  · intro name inner hmem
    have heq : name = "defaults" ∧ .table inner = c.defaults.toDocument := by
      simpa [EngineConfig.entries, valueEntries] using hmem
    cases heq.2
    exact keyed_of_names ["mode", "term_mode", "case", "whole_word", "normalize_whitespace",
      "ignore_diacritics", "allow_empty"] rfl (by decide +kernel) (by decide)

theorem keyedFile_eraseKeys (keys : List String) (c : EngineConfig) :
    KeyedFile (eraseKeys keys c.valueEntries) := by
  refine ⟨(keyedFile c).toKeyed.sublist ?_, ?_⟩
  · exact List.filter_sublist.trans (List.sublist_append_left _ _)
  · intro name inner hmem
    have hvalue := (List.mem_filter.mp hmem).1
    simp [valueEntries] at hvalue

theorem load_ofList {c : EngineConfig} {content : List Char} (h : ofFile? content = some c)
    (path : String) : load path (.ok (String.ofList content)) = .ok c := by
  simp only [load, String.toList_ofList, h]

theorem save_eq_ok {c : EngineConfig} {text : String} :
    c.save = .ok text ↔ c.toFile? = some text.toList := by
  unfold save
  split
  · rename_i hnone
    rw [hnone]
    simp
  · rename_i content hcontent
    rw [hcontent]
    constructor
    · intro h
      cases h
      rw [String.toList_ofList]
    · intro h
      rw [Option.some.inj h, String.ofList_toList]

theorem exists_writeValue?_size_iff {n : Nat} :
    (∃ word, writeValue? (.integer n) = some word) ↔ n < 0x8000000000000000 := by
  rw [exists_writeValue?_integer_iff]
  simp only [isWritable, Bool.and_eq_true, decide_eq_true_eq]
  omega

/-- A configuration has a file if both sizes are below the bound; nothing else can be too much. -/
theorem exists_toFile?_iff {c : EngineConfig} : (∃ content, c.toFile? = some content) ↔ c.Fits := by
  constructor
  · rintro ⟨content, hcontent⟩
    rw [toFile?, toDocument_eq] at hcontent
    rcases write?_eq_some.mp hcontent with ⟨top, -, htop, -, -⟩
    rw [valuesOf_entries] at htop
    have hvalues := exists_writeEntries?_iff.mp ⟨top, htop⟩
    simp only [valueEntries, List.forall_mem_cons, exists_writeValue?_size_iff] at hvalues
    exact ⟨hvalues.2.2.1, hvalues.2.2.2.1⟩
  · rintro ⟨hcache, hpending⟩
    have hvalues : ∀ e ∈ c.valueEntries, ∃ word, writeValue? e.2 = some word := by
      simp only [valueEntries, List.forall_mem_cons, exists_writeValue?_size_iff]
      exact ⟨⟨_, rfl⟩, c.missingAccessor.names.exists_writeValue?, hcache, hpending, by simp⟩
    rcases exists_writeEntries?_iff.mpr hvalues with ⟨top, htop⟩
    rcases c.defaults.exists_writeTable? with ⟨block, hblock⟩
    rw [toFile?, toDocument_eq]
    refine ⟨_, write?_eq_some.mpr ⟨top, [block], htop, ?_, rfl⟩⟩
    rw [tablesOf_entries]
    exact mapM_cons_eq_some.mpr ⟨block, [], hblock, rfl, rfl⟩

theorem ofFile?_deleteKeys {c : EngineConfig} {content : List Char} (h : c.toFile? = some content)
    (keys : List String) : ofFile? (deleteKeys keys content) = some (c.without keys) := by
  have hdeleted := write?_deleteKeys keys (keyedFile c) h
  have hparse := parse_write ((keyedFile c).prunedFile keys) hdeleted 0
  rw [valuesOf_prunedFile, tablesOf_prunedFile, valuesOf_entries, tablesOf_entries,
    List.replicate_zero, List.append_nil] at hparse
  rw [ofFile?, hparse, Option.bind_some]
  refine ofDocument?_eraseKeys (exists_toFile?_iff.mp ⟨content, h⟩) keys ?_
    (DescriptorDefaults.ofDocument?_pruned keys c.defaults)
  simp [List.lookup]

/-- To delete no key is to leave the file as it is. -/
theorem deleteKeys_nil {c : EngineConfig} {content : List Char} (h : c.toFile? = some content) :
    deleteKeys [] content = content := by
  have hall : prunedFile [] c.entries = c.entries := by
    rw [prunedFile, valuesOf_entries, tablesOf_entries, EngineConfig.entries]
    simp [DescriptorDefaults.toDocument_eq, pruned, eraseKeys]
  have hdeleted := write?_deleteKeys [] (keyedFile c) h
  -- both are what is written for the same document
  rw [hall, ← toDocument_eq, ← toFile?, h] at hdeleted
  exact (Option.some.inj hdeleted).symm

theorem ofFile?_toFile? {c : EngineConfig} {content : List Char} (h : c.toFile? = some content) :
    ofFile? content = some c := by
  have hread := ofFile?_deleteKeys h []
  rw [deleteKeys_nil h] at hread
  rw [hread]
  simp [without, DescriptorDefaults.without]

/-- Without their table all flags have their defaults. -/
theorem ofFile?_deleteTable {c : EngineConfig} {content : List Char}
    (h : c.toFile? = some content) (keys : List String) :
    ofFile? (deleteTable "defaults" (deleteKeys keys content)) =
      some { c.without keys with defaults := {} } := by
  have hdeleted := write?_deleteKeys keys (keyedFile c) h
  rcases write?_eq_some.mp hdeleted with ⟨top, blocks, htop, hblocks, hcontent⟩
  rw [valuesOf_prunedFile, valuesOf_entries] at htop
  rw [tablesOf_prunedFile, tablesOf_entries] at hblocks
  rcases mapM_cons_eq_some.mp hblocks with ⟨block, more, hblock, hmore, rfl⟩
  cases hmore
  have hvalues := keyedFile_eraseKeys keys c
  have hflags : ∀ inner, pruned keys c.defaults.toDocument = .table inner →
      ∀ e ∈ inner, IsBare e.1 := by
    intro inner hd
    refine (((keyedFile c).prunedFile keys).inner "defaults" inner ?_).bare
    rw [← hd, prunedFile, tablesOf_entries]
    simp
  have hname : IsBare "defaults" := by decide +kernel
  have hrest : deleteTable "defaults" (deleteKeys keys content) = top ++ ['\n'] := by
    rw [hcontent]
    simpa using deleteTable_write hvalues.bare hname hflags htop hblock
  -- what is left is the file of the other fields, and a blank line
  have hplain : ∀ e ∈ eraseKeys keys c.valueEntries, isTable e.2 = false := by
    rw [← valuesOf_entries]
    exact fun e => isTable_of_mem_eraseKeys
  have hwritten : write? (.table (eraseKeys keys c.valueEntries)) = some top := by
    refine write?_eq_some.mpr ⟨top, [], ?_, ?_, ?_⟩
    · rw [valuesOf_eq_self hplain, htop]
    · rw [tablesOf_eq_nil hplain]
      rfl
    · simp
  have hparse := parse_write hvalues hwritten 1
  rw [valuesOf_eq_self hplain, tablesOf_eq_nil hplain, List.replicate_one, ← hrest] at hparse
  rw [ofFile?, hparse, Option.bind_some]
  exact ofDocument?_eraseKeys (exists_toFile?_iff.mp ⟨content, h⟩) keys (by simp) rfl

/-- A configuration that can be saved is read from its file as it was. If the lines of some keys are
deleted from the file, these fields have their defaults, and the others are as they were saved. If
the table of the flags is deleted as well, so have all flags. -/
theorem load_save {c : EngineConfig} {text : String} (h : c.save = .ok text) (path : String) :
    load path (.ok text) = .ok c ∧
    ∀ keys : List String,
      load path (.ok (String.ofList (deleteKeys keys text.toList))) = .ok (c.without keys) ∧
      load path (.ok (String.ofList (deleteTable "defaults" (deleteKeys keys text.toList)))) =
        .ok { c.without keys with defaults := {} } := by
  have hfile := save_eq_ok.mp h
  refine ⟨?_, fun keys => ⟨?_, ?_⟩⟩
  · rw [← String.ofList_toList (s := text)]
    exact load_ofList (ofFile?_toFile? hfile) path
  · exact load_ofList (ofFile?_deleteKeys hfile keys) path
  · exact load_ofList (ofFile?_deleteTable hfile keys) path

/-- Every kind of value is in this file, and two of its keys are deleted. -/
theorem load_save_changed :
    let c : EngineConfig :=
      { trackItemChanges := true, missingAccessor := .failFast, preparedCacheSize := 0,
        maxPendingEdits := 12, defaults := { mode := .wildcard, wholeWord := true } }
    let text := "track_item_changes = true\nmissing_accessor = \"fail-fast\"\n" ++
      "prepared_cache_size = 0\nmax_pending_edits = 12\n\n[defaults]\nmode = \"wildcard\"\n" ++
      "term_mode = \"any\"\ncase = \"insensitive\"\nwhole_word = true\n" ++
      "normalize_whitespace = false\nignore_diacritics = false\nallow_empty = false\n"
    c.save = .ok text ∧ load "config.toml" (.ok text) = .ok c ∧
      load "config.toml"
          (.ok (String.ofList (deleteKeys ["max_pending_edits", "mode"] text.toList))) =
        .ok { c with maxPendingEdits := 4096, defaults := { wholeWord := true } } := by
  intro c text
  have hsave : c.save = .ok text := by decide +kernel
  rcases load_save hsave "config.toml" with ⟨hload, hdeleted⟩
  exact ⟨hsave, hload, (hdeleted ["max_pending_edits", "mode"]).1⟩

end EngineConfig

end CellSearch
