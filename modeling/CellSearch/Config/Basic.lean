import CellSearch.Column.Basic
import CellSearch.Query.Descriptor

/-!
# Configuration

How an engine behaves, and the flags of descriptors made from a bare query.
-/

namespace CellSearch

/-- The flags of a descriptor that is made from a bare query. -/
structure DescriptorDefaults where
  mode : MatchMode := .contains
  termMode : TermMode := .any
  case : CaseSensitivity := .insensitive
  wholeWord : Bool := false
  normalizeWhiteSpace : Bool := false
  ignoreDiacritics : Bool := false
  allowEmpty : Bool := false
deriving DecidableEq, Repr, Inhabited

namespace DescriptorDefaults

/-- The descriptor of a bare query. -/
def descriptor (d : DescriptorDefaults) (query : String) : Descriptor where
  query := query
  mode := d.mode
  termMode := d.termMode
  case := d.case
  wholeWord := d.wholeWord
  normalizeWhiteSpace := d.normalizeWhiteSpace
  ignoreDiacritics := d.ignoreDiacritics
  allowEmpty := d.allowEmpty

end DescriptorDefaults

/-- How an engine behaves. -/
structure EngineConfig where
  /-- Whether changes of single rows are queued. -/
  trackItemChanges : Bool := false
  missingAccessor : MissingAccessorPolicy := .ignore
  preparedCacheSize : Nat := 64
  /-- How many reports a queue holds before it is given up. -/
  maxPendingEdits : Nat := 4096
  defaults : DescriptorDefaults := {}
deriving DecidableEq, Repr, Inhabited

end CellSearch
