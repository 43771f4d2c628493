import CellSearch.Regex.Bracket

/-!
# Reading a pattern

A pattern is read from left to right. The state of the reader holds the groups that are open,
the branches and the parts of the innermost, and the flags in force. Every step takes at least
one character, so that the length of the pattern bounds the number of steps. What is not a
pattern is refused without a reason.
-/

namespace CellSearch.Regex

open CellSearch.Unicode

/-- A part of a branch. Flags that were set stand between the patterns and cannot be
repeated. -/
inductive Part where
  | flags
  | pattern (r : Regex)
deriving DecidableEq, Repr, Inhabited

/-- The pattern of a list of parts. -/
def Part.concat (parts : List Part) : Regex :=
  Regex.concat (parts.filterMap fun
    | .flags => none
    | .pattern r => some r)

/-- What surrounds a group that has been opened. -/
structure OpenGroup where
  branches : List Regex
  parts : List Part
  flags : Flags
deriving DecidableEq, Repr, Inhabited

/-- The state of the reader: the finished branches of the innermost group, the parts of the
branch at hand, the flags in force, the groups around, and the names of groups so far. -/
structure Reader where
  branches : List Regex
  parts : List Part
  flags : Flags
  outer : List OpenGroup
  names : List (List Char)
deriving DecidableEq, Repr, Inhabited

namespace Reader

/-- The reader at the start of a pattern. -/
def start (flags : Flags) : Reader := ⟨[], [], flags, [], []⟩

/-- The reader after one more part. -/
def push (s : Reader) (r : Regex) : Reader :=
  { s with parts := s.parts ++ [.pattern r] }

/-- The pattern of the innermost group as far as it is read. -/
def value (s : Reader) : Regex :=
  Regex.oneOf (s.branches ++ [Part.concat s.parts])

/-- The reader after a bar. -/
def nextBranch (s : Reader) : Reader :=
  { s with branches := s.branches ++ [Part.concat s.parts], parts := [] }

/-! ## Repetition -/

/-- Replace the last part, which must be a pattern. -/
def repeatLast (f : Regex → Regex) (s : Reader) : Option Reader :=
  match s.parts.getLast? with
  | some (.pattern r) => some { s with parts := s.parts.dropLast ++ [.pattern (f r)] }
  | _ => none

/-- Whether a repetition is greedy, and what follows its question mark. -/
def readGreed (s : Reader) : List Char → Bool × List Char
  | '?' :: rest => (s.flags.swapGreed, rest)
  | rest => (!s.flags.swapGreed, rest)

/-- Repeat a pattern within bounds. -/
def repeatWithin (b : Bounds) (greedy : Bool) (r : Regex) : Regex :=
  match b.most with
  | none => Regex.atLeast r b.least greedy
  | some most => Regex.between r b.least most greedy

/-! ## Groups -/

/-- Whether a text begins with any of the signs of a look-around, which is not supported. -/
def isLookAround (cs : List Char) : Bool :=
  [['?', '='], ['?', '!'], ['?', '<', '='], ['?', '<', '!']].any fun sign => sign.isPrefixOf cs

/-- Whether a character can stand in the name of a group. -/
def isNameChar (first : Bool) (c : Char) : Bool :=
  if first then c == '_' || isAlphabetic c
  else c == '_' || c == '.' || c == '[' || c == ']' || isAlphabetic c || isNumeric c

/-- Read the name of a group up to a closing angle bracket. -/
def readGroupName : (first : Bool) → List Char → Option (List Char × List Char)
  | _, [] => none
  | first, c :: rest =>
    if c = '>' then some ([], rest)
    else if isNameChar first c then
      (readGroupName false rest).map fun (name, rest) => (c :: name, rest)
    else none

/-- The reader inside a new group. -/
def enter (s : Reader) (flags : Flags) : Reader :=
  ⟨[], [], flags, ⟨s.branches, s.parts, s.flags⟩ :: s.outer, s.names⟩

/-- Enter a group with a name that no group has yet. -/
def enterNamed (s : Reader) (cs : List Char) : Option (Reader × List Char) :=
  match readGroupName true cs with
  | none => none
  | some (name, rest) =>
    if name.isEmpty || s.names.contains name then none
    else some ({ s.enter s.flags with names := name :: s.names }, rest)

/-- Read what follows an opening parenthesis: a group or flags. -/
def openGroup (s : Reader) (cs : List Char) : Option (Reader × List Char) :=
  let cs := s.flags.skip cs
  if isLookAround cs then none
  else
    match cs with
    | '?' :: 'P' :: '<' :: rest => s.enterNamed rest
    | '?' :: '<' :: rest => s.enterNamed rest
    | '?' :: rest =>
      match FlagChange.read false false ⟨[], []⟩ rest with
      | some (change, ')' :: rest) =>
        if change.isEmpty then none
        else some ({ s with parts := s.parts ++ [.flags], flags := change.apply s.flags }, rest)
      | some (change, _ :: rest) => some (s.enter (change.apply s.flags), rest)
      | _ => none
    | rest => some (s.enter s.flags, rest)

/-- The reader after a closing parenthesis: the group becomes a part of what is around it, and
the flags before it are in force again. -/
def closeGroup (s : Reader) : Option Reader :=
  match s.outer with
  | [] => none
  | g :: outer =>
    some ⟨g.branches, g.parts ++ [.pattern s.value], g.flags, outer, s.names⟩

/-- The pattern at the end of the text, if every group is closed. -/
def finish (s : Reader) : Option Regex :=
  if s.outer.isEmpty then some s.value else none

/-! ## Single characters -/

/-- The pattern of a literal character. A byte above ASCII stands for no character. -/
def literal (flags : Flags) (c : Char) (byte : Bool) : Option Regex :=
  if flags.unicode then some (.set (if flags.caseless then .caseless c else .char c))
  else if c.toNat < 0x80 then
    some (.set (if flags.caseless then .asciiFolded (.char c) else .char c))
  else if byte then none
  else some (.set (.char c))

/-- The pattern of the dot. A dot for bytes is refused. -/
def dot (flags : Flags) : Option Regex :=
  if !flags.unicode then none
  else if flags.dotAll then some (.set .any)
  else if flags.crlf then some (.set .notLineEnd)
  else some (.set .notLineFeed)

/-- The condition of a circumflex. -/
def circumflex (flags : Flags) : Look :=
  if !flags.multiLine then .textStart else if flags.crlf then .lineStartCrlf else .lineStart

/-- The condition of a dollar sign. -/
def dollar (flags : Flags) : Look :=
  if !flags.multiLine then .textEnd else if flags.crlf then .lineEndCrlf else .lineEnd

/-- Read a part that is neither a group, a set in brackets nor a repetition. -/
def readPrimitive (flags : Flags) : List Char → Option (Regex × List Char)
  | [] => none
  | '\\' :: rest =>
    match readEscape flags rest with
    | none => none
    | some (.literal c byte, rest) => (literal flags c byte).map fun r => (r, rest)
    | some (.set s, rest) => some (.set s, rest)
    | some (.look l, rest) => some (.look l, rest)
  | '.' :: rest => (dot flags).map fun r => (r, rest)
  | '^' :: rest => some (.look (circumflex flags), rest)
  | '$' :: rest => some (.look (dollar flags), rest)
  | c :: rest => (literal flags c false).map fun r => (r, rest)

/-! ## The whole pattern -/

/-- Read one more part of a pattern, which begins with `c`. -/
def step (s : Reader) (c : Char) (rest : List Char) : Option (Reader × List Char) :=
  match c with
  | '(' => s.openGroup rest
  | ')' => s.closeGroup.map fun s => (s, rest)
  | '|' => some (s.nextBranch, rest)
  | '[' => (readBracket s.flags rest).map fun (b, rest) => (s.push (.set b), rest)
  | '?' =>
    let (greedy, rest) := s.readGreed rest
    (s.repeatLast fun r => .upTo r 1 greedy).map fun s => (s, rest)
  | '*' =>
    let (greedy, rest) := s.readGreed rest
    (s.repeatLast fun r => Regex.star r greedy).map fun s => (s, rest)
  | '+' =>
    let (greedy, rest) := s.readGreed rest
    (s.repeatLast fun r => .plus r greedy).map fun s => (s, rest)
  | '\x7b' =>
    match readBounds s.flags rest with
    | none => none
    | some (b, rest) =>
      let (greedy, rest) := s.readGreed (s.flags.skip rest)
      (s.repeatLast (repeatWithin b greedy)).map fun s => (s, rest)
  | c => (readPrimitive s.flags (c :: rest)).map fun (r, rest) => (s.push r, rest)

/-- Read the rest of a pattern. -/
def run : (fuel : Nat) → Reader → List Char → Option Regex
  | 0, _, _ => none
  | fuel + 1, s, cs =>
    match s.flags.skip cs with
    | [] => s.finish
    | c :: rest =>
      match s.step c rest with
      | none => none
      | some (s, rest) => run fuel s rest

end Reader

/-- The pattern that a text writes, if it writes one. -/
def parse (caseless : Bool) (cs : List Char) : Option Regex :=
  Reader.run (cs.length + 1) (Reader.start { caseless }) cs

end CellSearch.Regex
