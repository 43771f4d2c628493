import CellSearch.Config.Basic
import CellSearch.Document.Basic

/-!
# Reading descriptors and configurations

Every entry of a descriptor or a configuration may be missing and then has its default.
Entries with other names are ignored. `nulls` says whether the format of the document has a
null.
-/

namespace CellSearch

open Document

/-- Read a scope. -/
def ColumnScope.ofDocument? (nulls : Bool) (d : Document) : Option ColumnScope :=
  match d with
  | .table [("explicit-columns", ids)] => (texts? ids).map explicitColumns
  | _ =>
    match name? nulls d with
    | some "all-columns" => some allColumns
    | some "visible-columns" => some visibleColumns
    | _ => none

/-- Read a descriptor. -/
def Descriptor.ofDocument? (nulls : Bool) (d : Document) : Option Descriptor := do
  let entries ← d.record? ["query", "mode", "term_mode", "scope", "case", "culture",
    "whole_word", "normalize_whitespace", "ignore_diacritics", "allow_empty"]
  let plain : Descriptor := {}
  return {
    query := ← entry entries "query" text? plain.query
    mode := ← entry entries "mode" (variant? nulls MatchMode.ofName?) plain.mode
    termMode := ← entry entries "term_mode" (variant? nulls TermMode.ofName?) plain.termMode
    scope := ← entry entries "scope" (ColumnScope.ofDocument? nulls) plain.scope
    case := ← entry entries "case" (variant? nulls CaseSensitivity.ofName?) plain.case
    culture := ← entry entries "culture" optionalText? plain.culture
    wholeWord := ← entry entries "whole_word" bool? plain.wholeWord
    normalizeWhiteSpace :=
      ← entry entries "normalize_whitespace" bool? plain.normalizeWhiteSpace
    ignoreDiacritics := ← entry entries "ignore_diacritics" bool? plain.ignoreDiacritics
    allowEmpty := ← entry entries "allow_empty" bool? plain.allowEmpty }

/-- Read the flags of descriptors. -/
def DescriptorDefaults.ofDocument? (nulls : Bool) (d : Document) :
    Option DescriptorDefaults := do
  let entries ← d.record? ["mode", "term_mode", "case", "whole_word", "normalize_whitespace",
    "ignore_diacritics", "allow_empty"]
  let plain : DescriptorDefaults := {}
  return {
    mode := ← entry entries "mode" (variant? nulls MatchMode.ofName?) plain.mode
    termMode := ← entry entries "term_mode" (variant? nulls TermMode.ofName?) plain.termMode
    case := ← entry entries "case" (variant? nulls CaseSensitivity.ofName?) plain.case
    wholeWord := ← entry entries "whole_word" bool? plain.wholeWord
    normalizeWhiteSpace :=
      ← entry entries "normalize_whitespace" bool? plain.normalizeWhiteSpace
    ignoreDiacritics := ← entry entries "ignore_diacritics" bool? plain.ignoreDiacritics
    allowEmpty := ← entry entries "allow_empty" bool? plain.allowEmpty }

/-- Read the configuration of an engine. -/
def EngineConfig.ofDocument? (nulls : Bool) (d : Document) : Option EngineConfig := do
  let entries ← d.record? ["track_item_changes", "missing_accessor", "prepared_cache_size",
    "max_pending_edits", "defaults"]
  let plain : EngineConfig := {}
  return {
    trackItemChanges := ← entry entries "track_item_changes" bool? plain.trackItemChanges
    missingAccessor :=
      ← entry entries "missing_accessor" (variant? nulls MissingAccessorPolicy.ofName?)
        plain.missingAccessor
    preparedCacheSize := ← entry entries "prepared_cache_size" size? plain.preparedCacheSize
    maxPendingEdits := ← entry entries "max_pending_edits" size? plain.maxPendingEdits
    defaults := ← entry entries "defaults" (DescriptorDefaults.ofDocument? nulls) plain.defaults }

end CellSearch
