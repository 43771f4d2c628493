import CellSearch.Unicode.CharClass
import CellSearch.Unicode.WhiteSpace

/-!
# Binary properties

The properties that a character has or has not. Many are unions and differences of general
categories and of the tables in `CellSearch.Unicode.Table`.
-/

namespace CellSearch.Unicode

/-- A property that a character has or has not. -/
inductive BinaryProperty where
  | alphabetic
  | asciiHexDigit
  | bidiControl
  | bidiMirrored
  | caseIgnorable
  | cased
  | changesWhenCasefolded
  | changesWhenCasemapped
  | changesWhenLowercased
  | changesWhenTitlecased
  | changesWhenUppercased
  | dash
  | defaultIgnorable
  | deprecated
  | diacritic
  | emoji
  | emojiComponent
  | emojiModifier
  | emojiModifierBase
  | emojiPresentation
  | extendedPictographic
  | extender
  | graphemeBase
  | graphemeExtend
  | hexDigit
  | hyphen
  | idContinue
  | idStart
  | ideographic
  | idsBinaryOperator
  | idsTrinaryOperator
  | joinControl
  | logicalOrderException
  | lowercase
  | math
  | noncharacter
  | patternSyntax
  | patternWhiteSpace
  | prependedConcatenationMark
  | quotationMark
  | radical
  | regionalIndicator
  | sentenceTerminal
  | softDotted
  | terminalPunctuation
  | unifiedIdeograph
  | uppercase
  | variationSelector
  | whiteSpace
  | xidContinue
  | xidStart
deriving DecidableEq, Repr, Inhabited

namespace BinaryProperty

/-- Whether a character has lower, upper or title case. -/
def isCased (c : Char) : Bool :=
  isLowercase c || isUppercase c || inCategories [.titlecaseLetter] c

/-- Whether a character starts an identifier. -/
def startsIdentifier (c : Char) : Bool :=
  (inCategories (.letterNumber :: letterCategories) c || Table.otherIdStart.contains c) &&
    !Table.patternSyntax.contains c && !Table.patternWhiteSpace.contains c

/-- Whether a character continues an identifier. -/
def continuesIdentifier (c : Char) : Bool :=
  startsIdentifier c ||
    ((inCategories [.nonspacingMark, .spacingMark, .decimalNumber, .connectorPunctuation] c ||
        Table.otherIdContinue.contains c) &&
      !Table.patternSyntax.contains c && !Table.patternWhiteSpace.contains c)

/-- Whether a character can stand alone as a grapheme. -/
def isGraphemeBase (c : Char) : Bool :=
  !inCategories [.control, .format, .privateUse, .unassigned, .lineSeparator,
    .paragraphSeparator] c && !extendsGrapheme c

/-- Whether a character has the property. -/
def holds (p : BinaryProperty) (c : Char) : Bool :=
  match p with
  | alphabetic => isAlphabetic c
  | asciiHexDigit => Table.asciiHexDigit.contains c
  | bidiControl => Table.bidiControl.contains c
  | bidiMirrored => Table.bidiMirrored.contains c
  | caseIgnorable =>
    Table.midWord.contains c ||
      inCategories [.nonspacingMark, .enclosingMark, .format, .modifierLetter,
        .modifierSymbol] c
  | cased => isCased c
  | changesWhenCasefolded => Table.changesWhenCasefolded.contains c
  | changesWhenCasemapped =>
    Table.changesWhenLowercased.contains c || Table.changesWhenUppercased.contains c ||
      Table.changesWhenTitlecased.contains c
  | changesWhenLowercased => Table.changesWhenLowercased.contains c
  | changesWhenTitlecased => Table.changesWhenTitlecased.contains c
  | changesWhenUppercased => Table.changesWhenUppercased.contains c
  | dash => Table.dash.contains c
  | defaultIgnorable => Table.defaultIgnorable.contains c
  | deprecated => Table.deprecated.contains c
  | diacritic => Table.diacritic.contains c
  | emoji => Table.emoji.contains c
  | emojiComponent => Table.emojiComponent.contains c
  | emojiModifier => Table.emojiModifier.contains c
  | emojiModifierBase => Table.emojiModifierBase.contains c
  | emojiPresentation => Table.emojiPresentation.contains c
  | extendedPictographic => Table.extendedPictographic.contains c
  | extender => Table.extender.contains c
  | graphemeBase => isGraphemeBase c
  | graphemeExtend => extendsGrapheme c
  | hexDigit => Table.hexDigit.contains c
  | hyphen => Table.hyphen.contains c
  | idContinue => continuesIdentifier c
  | idStart => startsIdentifier c
  | ideographic => Table.ideographic.contains c
  | idsBinaryOperator => Table.idsBinaryOperator.contains c
  | idsTrinaryOperator => Table.idsTrinaryOperator.contains c
  | joinControl => Table.joinControl.contains c
  | logicalOrderException => Table.logicalOrderException.contains c
  | lowercase => isLowercase c
  | math => inCategories [.mathSymbol] c || Table.otherMath.contains c
  | noncharacter => Table.noncharacter.contains c
  | patternSyntax => Table.patternSyntax.contains c
  | patternWhiteSpace => Table.patternWhiteSpace.contains c
  | prependedConcatenationMark => Table.prependedConcatenationMark.contains c
  | quotationMark => Table.quotationMark.contains c
  | radical => Table.radical.contains c
  | regionalIndicator => Table.regionalIndicator.contains c
  | sentenceTerminal => Table.sentenceTerminal.contains c
  | softDotted => Table.softDotted.contains c
  | terminalPunctuation => Table.terminalPunctuation.contains c
  | unifiedIdeograph => Table.unifiedIdeograph.contains c
  | uppercase => isUppercase c
  | variationSelector => Table.variationSelector.contains c
  | whiteSpace => isWhiteSpace c
  | xidContinue => continuesIdentifier c && !Table.notXidContinue.contains c
  | xidStart => startsIdentifier c && !Table.notXidStart.contains c

/-- The names of each property, in the form that `Property.looseName` gives. -/
def names : List (BinaryProperty × List String) :=
  [(alphabetic, ["alphabetic", "alpha"]),
   (asciiHexDigit, ["asciihexdigit", "ahex"]),
   (bidiControl, ["bidicontrol", "bidic"]),
   (bidiMirrored, ["bidimirrored", "bidim"]),
   (caseIgnorable, ["caseignorable", "ci"]),
   (cased, ["cased"]),
   (changesWhenCasefolded, ["changeswhencasefolded", "cwcf"]),
   (changesWhenCasemapped, ["changeswhencasemapped", "cwcm"]),
   (changesWhenLowercased, ["changeswhenlowercased", "cwl"]),
   (changesWhenTitlecased, ["changeswhentitlecased", "cwt"]),
   (changesWhenUppercased, ["changeswhenuppercased", "cwu"]),
   (dash, ["dash"]),
   (defaultIgnorable, ["defaultignorablecodepoint", "di"]),
   (deprecated, ["deprecated", "dep"]),
   (diacritic, ["diacritic", "dia"]),
   (emoji, ["emoji"]),
   (emojiComponent, ["emojicomponent", "ecomp"]),
   (emojiModifier, ["emojimodifier", "emod"]),
   (emojiModifierBase, ["emojimodifierbase", "ebase"]),
   (emojiPresentation, ["emojipresentation", "epres"]),
   (extendedPictographic, ["extendedpictographic", "extpict"]),
   (extender, ["extender", "ext"]),
   (graphemeBase, ["graphemebase", "grbase"]),
   (graphemeExtend, ["graphemeextend", "grext"]),
   (hexDigit, ["hexdigit", "hex"]),
   (hyphen, ["hyphen"]),
   (idContinue, ["idcontinue", "idc"]),
   (idStart, ["idstart", "ids"]),
   (ideographic, ["ideographic", "ideo"]),
   (idsBinaryOperator, ["idsbinaryoperator", "idsb"]),
   (idsTrinaryOperator, ["idstrinaryoperator", "idst"]),
   (joinControl, ["joincontrol", "joinc"]),
   (logicalOrderException, ["logicalorderexception", "loe"]),
   (lowercase, ["lowercase", "lower"]),
   (math, ["math"]),
   (noncharacter, ["noncharactercodepoint", "nchar"]),
   (patternSyntax, ["patternsyntax", "patsyn"]),
   (patternWhiteSpace, ["patternwhitespace", "patws"]),
   (prependedConcatenationMark, ["prependedconcatenationmark", "pcm"]),
   (quotationMark, ["quotationmark", "qmark"]),
   (radical, ["radical"]),
   (regionalIndicator, ["regionalindicator", "ri"]),
   (sentenceTerminal, ["sentenceterminal", "sterm"]),
   (softDotted, ["softdotted", "sd"]),
   (terminalPunctuation, ["terminalpunctuation", "term"]),
   (unifiedIdeograph, ["unifiedideograph", "uideo"]),
   (uppercase, ["uppercase", "upper"]),
   (variationSelector, ["variationselector", "vs"]),
   (whiteSpace, ["whitespace", "wspace", "space"]),
   (xidContinue, ["xidcontinue", "xidc"]),
   (xidStart, ["xidstart", "xids"])]

/-- The property of a name. -/
def ofName? (name : String) : Option BinaryProperty :=
  (names.find? fun entry => entry.2.contains name).map (·.1)

end BinaryProperty

end CellSearch.Unicode
