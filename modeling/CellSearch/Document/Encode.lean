import CellSearch.Config.Basic
import CellSearch.Document.Basic
import CellSearch.Result.Basic

/-!
# Writing values as documents

Descriptors and configurations are written with every entry. Results are written with their
entries in the order of the names.
-/

namespace CellSearch

/-! ## Requests -/

/-- The document of a scope. -/
def ColumnScope.toDocument : ColumnScope → Document
  | allColumns => .text "all-columns"
  | visibleColumns => .text "visible-columns"
  | explicitColumns ids => .table [("explicit-columns", .list (ids.map .text))]

/-- The document of a text that may be missing. -/
def Document.ofOptionalText : Option String → Document
  | some s => .text s
  | none => .null

/-- The document of a descriptor. -/
def Descriptor.toDocument (d : Descriptor) : Document :=
  .table [
    ("query", .text d.query),
    ("mode", .text d.mode.name),
    ("term_mode", .text d.termMode.name),
    ("scope", d.scope.toDocument),
    ("case", .text d.case.name),
    ("culture", .ofOptionalText d.culture),
    ("whole_word", .bool d.wholeWord),
    ("normalize_whitespace", .bool d.normalizeWhiteSpace),
    ("ignore_diacritics", .bool d.ignoreDiacritics),
    ("allow_empty", .bool d.allowEmpty)]

/-! ## Configurations -/

/-- The document of the flags of descriptors. -/
def DescriptorDefaults.toDocument (d : DescriptorDefaults) : Document :=
  .table [
    ("mode", .text d.mode.name),
    ("term_mode", .text d.termMode.name),
    ("case", .text d.case.name),
    ("whole_word", .bool d.wholeWord),
    ("normalize_whitespace", .bool d.normalizeWhiteSpace),
    ("ignore_diacritics", .bool d.ignoreDiacritics),
    ("allow_empty", .bool d.allowEmpty)]

/-- The document of a configuration. -/
def EngineConfig.toDocument (c : EngineConfig) : Document :=
  .table [
    ("track_item_changes", .bool c.trackItemChanges),
    ("missing_accessor", .text c.missingAccessor.name),
    ("prepared_cache_size", .integer c.preparedCacheSize),
    ("max_pending_edits", .integer c.maxPendingEdits),
    ("defaults", c.defaults.toDocument)]

/-! ## Results -/

/-- The document of a span, by its start and its length. -/
def Interval.toDocument (i : Interval) : Document :=
  .table [("len", .integer i.len), ("start", .integer i.start)]

/-- The document of a result whose key is a whole number. -/
def SearchResult.toDocument {K : Type} (keyNumber : K → Int) (r : SearchResult K) : Document :=
  .table [
    ("column", .text r.column),
    ("column_index", .integer r.columnIndex),
    ("key", .integer (keyNumber r.key)),
    ("matches", .list (r.spans.map Interval.toDocument)),
    ("row", .integer r.row),
    ("text", .text r.text)]

end CellSearch
