/-!
# Documents

Configuration and requests come as documents: values, lists and tables of named entries. The
readers here turn a document into a value of the library, or refuse it.
-/

namespace CellSearch

/-- A document. -/
inductive Document where
  | null
  | bool (b : Bool)
  | integer (n : Int)
  /-- A number that is not whole, or a date or time: no reader accepts one. -/
  | scalar
  | text (s : String)
  | list (items : List Document)
  | table (entries : List (String × Document))
deriving Repr, Inhabited

namespace Document

/-! ## Plain values -/

/-- Read a truth value. -/
def bool? : Document → Option Bool
  | bool b => some b
  | _ => none

/-- Read a text. -/
def text? : Document → Option String
  | text s => some s
  | _ => none

/-- Read a text that may be missing. -/
def optionalText? : Document → Option (Option String)
  | null => some none
  | text s => some (some s)
  | _ => none

/-- Read a size: a whole number of at most 64 bits without a sign. -/
def size? : Document → Option Nat
  | integer n => if 0 ≤ n ∧ n < 0x10000000000000000 then some n.toNat else none
  | _ => none

/-- Read a list of texts. -/
def texts? : Document → Option (List String)
  | list items => items.mapM text?
  | _ => none

/-! ## Names and records -/

/-- What stands for nothing after the name of a variant: a null, or in a format without nulls
an empty list or table. -/
def isNothing (nulls : Bool) : Document → Bool
  | null => true
  | list items => !nulls && items.isEmpty
  | table entries => !nulls && entries.isEmpty
  | _ => false

/-- Read the name of a variant that holds nothing: a text, or a table with the name alone. -/
def name? (nulls : Bool) : Document → Option String
  | text s => some s
  | table [(name, value)] => if value.isNothing nulls then some name else none
  | _ => none

/-- Read a variant by its name. -/
def variant? {α : Type} (nulls : Bool) (ofName? : String → Option α) (d : Document) : Option α :=
  (d.name? nulls).bind ofName?

/-- The entries of a record: a table, or a list of values in the order of the names. -/
def record? (names : List String) : Document → Option (List (String × Document))
  | table entries => some entries
  | list items => if items.length ≤ names.length then some (names.zip items) else none
  | _ => none

/-- Read an entry of a record. One that is missing has its default. -/
def entry {α : Type} (entries : List (String × Document)) (name : String)
    (read : Document → Option α) (default : α) : Option α :=
  match entries.lookup name with
  | none => some default
  | some d => read d

end Document

end CellSearch
