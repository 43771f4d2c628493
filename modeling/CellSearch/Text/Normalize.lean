import CellSearch.Interval
import CellSearch.Text.Bytes
import CellSearch.Unicode.CharClass
import CellSearch.Unicode.Decomposition
import CellSearch.Unicode.Lowercase
import CellSearch.Unicode.WhiteSpace

/-!
# Normalized text

A query and the cells it is compared with are normalized in the same way: runs of white space
become one space, diacritics are dropped, and case is folded. Each of the three can be left
out.

Matches are found in the normalized text and reported in the source text, so that every
normalized character remembers the source character it came from. Text that keeps its byte
layout needs no such memory.
-/

namespace CellSearch.Text

open CellSearch.Unicode

/-- Which steps of normalization to take. -/
structure NormalizeOptions where
  collapseWhiteSpace : Bool
  stripDiacritics : Bool
  foldCase : Bool
deriving DecidableEq, Repr, Inhabited

namespace NormalizeOptions

/-- Whether no step is taken. -/
def isNoop (o : NormalizeOptions) : Bool :=
  !o.collapseWhiteSpace && !o.stripDiacritics && !o.foldCase

end NormalizeOptions

/-- A normalized character with the byte offset and the width of its source character. -/
structure MappedChar where
  char : Char
  offset : Nat
  width : Nat
deriving DecidableEq, Repr, Inhabited

/-- A normalized text: either one that lies byte for byte where its source does, or one whose
characters say where they came from. -/
inductive NormalizedText where
  | aligned (text : List Char)
  | mapped (chars : List MappedChar)
deriving DecidableEq, Repr, Inhabited

namespace NormalizedText

/-- The characters of the normalized text. -/
def text : NormalizedText → List Char
  | aligned cs => cs
  | mapped chars => chars.map (·.char)

/-- Whether offsets in the normalized text are offsets in the source. -/
def isAligned : NormalizedText → Bool
  | aligned _ => true
  | mapped _ => false

/-- For each byte of the normalized text, the offset of the character it came from. -/
def byteMap : NormalizedText → Option (List Nat)
  | aligned _ => none
  | mapped chars => some (chars.flatMap fun m => List.replicate m.char.utf8Size m.offset)

/-- The normalized character that holds the byte at an offset. -/
def charAt? : List MappedChar → Nat → Option MappedChar
  | [], _ => none
  | m :: rest, n => if n < m.char.utf8Size then some m else charAt? rest (n - m.char.utf8Size)

/-- The span of the source text that a span of the normalized text came from. The span holds at
least one byte: it is taken from its first and its last. -/
def sourceSpan (n : NormalizedText) (span : Interval) : Interval :=
  match n with
  | aligned _ => span
  | mapped chars =>
    match charAt? chars span.start, charAt? chars (span.stop - 1) with
    | some first, some last => ⟨first.offset, last.offset + last.width⟩
    | _, _ => ⟨0, 0⟩

end NormalizedText

/-! ## Normalization of a character -/

/-- The character without its diacritics. ASCII has none. -/
def stripped (c : Char) : List Char :=
  if c.toNat < 0x80 then [c] else (decompose c).filter fun d => !isMark d

/-- What a character that is not collapsed becomes. -/
def NormalizeOptions.expand (o : NormalizeOptions) (c : Char) : List Char :=
  let parts := if o.stripDiacritics then stripped c else [c]
  if o.foldCase then parts.flatMap lowercase else parts

/-! ## Normalization of a text -/

/-- Normalize character by character. `inRun` says whether the character before was collapsed
white space, `offset` is where the text begins. -/
def mapChars (o : NormalizeOptions) : (inRun : Bool) → (offset : Nat) → List Char →
    List MappedChar
  | _, _, [] => []
  | inRun, offset, c :: rest =>
    if o.collapseWhiteSpace && isWhiteSpace c then
      if inRun then mapChars o true (offset + c.utf8Size) rest
      else ⟨' ', offset, c.utf8Size⟩ :: mapChars o true (offset + c.utf8Size) rest
    else
      (o.expand c).map (fun d => ⟨d, offset, c.utf8Size⟩) ++
        mapChars o false (offset + c.utf8Size) rest

/-- Whether a text is ASCII. -/
def isAscii (cs : List Char) : Bool :=
  cs.all fun c => c.toNat < 0x80

/-- Whether the only blanks of an ASCII text are single spaces. `afterSpace` says whether a space
came before. -/
def hasSingleSpaces : (afterSpace : Bool) → List Char → Bool
  | _, [] => true
  | afterSpace, c :: rest =>
    if c = ' ' then !afterSpace && hasSingleSpaces true rest
    else !isAsciiBlank c && hasSingleSpaces false rest

/-- Normalize a text. ASCII text whose white space stays as it is keeps its byte layout. -/
def normalize (o : NormalizeOptions) (cs : List Char) : NormalizedText :=
  if o.isNoop then .aligned cs
  else if isAscii cs && (!o.collapseWhiteSpace || hasSingleSpaces false cs) then
    .aligned (if o.foldCase then cs.map Char.toLower else cs)
  else .mapped (mapChars o false 0 cs)

end CellSearch.Text
