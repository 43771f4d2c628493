import CellSearch.Unicode.Age
import CellSearch.Unicode.BinaryProperty
import CellSearch.Unicode.Script

/-!
# Properties by name

Patterns name a property of characters in two ways: by a value alone (`Greek`, `Lu`,
`Alphabetic`) or by a property and a value (`Script=Greek`). Names are compared loosely: case,
blanks, hyphens, underscores and a leading "is" do not count.
-/

namespace CellSearch.Unicode

/-- A property of characters. -/
inductive Property where
  /-- Every character. -/
  | any
  /-- The characters below U+0080. -/
  | ascii
  /-- The characters that are assigned. -/
  | assigned
  /-- The characters of the given categories. -/
  | categories (cs : List Category)
  /-- The characters of a script. -/
  | script (name : String)
  /-- The characters used in a script. -/
  | scriptExtension (name : String)
  /-- The characters assigned up to a version. -/
  | age (name : String)
  | binary (p : BinaryProperty)
deriving DecidableEq, Repr, Inhabited

namespace Property

/-- Whether a character has the property. -/
def holds (p : Property) (c : Char) : Bool :=
  match p with
  | any => true
  | ascii => c.toNat < 0x80
  | assigned => !inCategories [.unassigned] c
  | categories cs => inCategories cs c
  | script name => (Script.ofName? name).any fun s => s.members.contains c
  | scriptExtension name => (Script.ofName? name).any fun s => s.extended.contains c
  | age name => (Age.ofName? name).any fun a => a.reaches c
  | binary b => b.holds c

/-! ## Names -/

/-- The form in which names are compared. The one name that a leading "is" is part of is
`isc`. -/
def looseName (name : List Char) : String :=
  let stripped : List Char :=
    match name with
    | i :: s :: rest => if i.toLower = 'i' ∧ s.toLower = 's' then rest else name
    | _ => name
  let kept := stripped.filter fun c => c.toNat < 0x80 && c != ' ' && c != '_' && c != '-'
  let lowered := kept.map Char.toLower
  if stripped.length + 2 = name.length ∧ lowered = ['c'] then "isc" else String.ofList lowered

/-- The names of the general categories and of their groups. -/
def categoryNames : List (List String × List Category) :=
  [(["casedletter", "lc"], [.uppercaseLetter, .lowercaseLetter, .titlecaseLetter]),
   (["closepunctuation", "pe"], [.closePunctuation]),
   (["connectorpunctuation", "pc"], [.connectorPunctuation]),
   (["control", "cc", "cntrl"], [.control]),
   (["currencysymbol", "sc"], [.currencySymbol]),
   (["dashpunctuation", "pd"], [.dashPunctuation]),
   (["decimalnumber", "nd", "digit"], [.decimalNumber]),
   (["enclosingmark", "me"], [.enclosingMark]),
   (["finalpunctuation", "pf"], [.finalPunctuation]),
   (["format", "cf"], [.format]),
   (["initialpunctuation", "pi"], [.initialPunctuation]),
   (["letter", "l"], letterCategories),
   (["letternumber", "nl"], [.letterNumber]),
   (["lineseparator", "zl"], [.lineSeparator]),
   (["lowercaseletter", "ll"], [.lowercaseLetter]),
   (["mark", "m", "combiningmark"], [.nonspacingMark, .spacingMark, .enclosingMark]),
   (["mathsymbol", "sm"], [.mathSymbol]),
   (["modifierletter", "lm"], [.modifierLetter]),
   (["modifiersymbol", "sk"], [.modifierSymbol]),
   (["nonspacingmark", "mn"], [.nonspacingMark]),
   (["number", "n"], [.decimalNumber, .letterNumber, .otherNumber]),
   (["openpunctuation", "ps"], [.openPunctuation]),
   (["other", "c"], [.control, .format, .privateUse, .unassigned]),
   (["otherletter", "lo"], [.otherLetter]),
   (["othernumber", "no"], [.otherNumber]),
   (["otherpunctuation", "po"], [.otherPunctuation]),
   (["othersymbol", "so"], [.otherSymbol]),
   (["paragraphseparator", "zp"], [.paragraphSeparator]),
   (["privateuse", "co"], [.privateUse]),
   (["punctuation", "p", "punct"],
     [.connectorPunctuation, .dashPunctuation, .openPunctuation, .closePunctuation,
       .initialPunctuation, .finalPunctuation, .otherPunctuation]),
   (["separator", "z"], [.spaceSeparator, .lineSeparator, .paragraphSeparator]),
   (["spaceseparator", "zs"], [.spaceSeparator]),
   (["spacingmark", "mc"], [.spacingMark]),
   (["symbol", "s"], [.mathSymbol, .currencySymbol, .modifierSymbol, .otherSymbol]),
   (["titlecaseletter", "lt"], [.titlecaseLetter]),
   (["unassigned", "cn"], [.unassigned]),
   (["uppercaseletter", "lu"], [.uppercaseLetter])]

/-- The general category, or group of them, of a loose name. -/
def ofCategoryName? (name : String) : Option Property :=
  if name = "any" then some any
  else if name = "assigned" then some assigned
  else if name = "ascii" then some ascii
  else (categoryNames.find? fun entry => entry.1.contains name).map fun entry => categories entry.2

/-- The script of a loose name. -/
def findScript? (name : String) : Option Script :=
  Script.all.find? fun s => (s.name :: s.aliases).any fun n => looseName n.toList == name

/-- The property that a value names alone. -/
def ofValue? (value : List Char) : Option Property :=
  let name := looseName value
  match BinaryProperty.ofName? name with
  | some p => some (binary p)
  | none =>
    match ofCategoryName? name with
    | some p => some p
    | none => (findScript? name).map fun s => script s.name

/-- The property that a property and a value name together. -/
def ofNameAndValue? (name value : List Char) : Option Property :=
  let value := looseName value
  match looseName name with
  | "generalcategory" | "gc" => ofCategoryName? value
  | "script" | "sc" => (findScript? value).map fun s => script s.name
  | "scriptextensions" | "scx" => (findScript? value).map fun s => scriptExtension s.name
  | "age" => (Age.ofName? value).map fun a => age (toString a.major ++ "." ++ toString a.minor)
  | _ => none

end Property

end CellSearch.Unicode
