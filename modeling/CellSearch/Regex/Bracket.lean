import CellSearch.Regex.Escape

/-!
# Sets in brackets

A set in brackets lists characters, ranges and other sets. Sets combine by intersection,
difference and symmetric difference, which bind alike, to the left, and more loosely than
listing.
-/

namespace CellSearch.Regex

open CellSearch.Unicode

/-- An operation on sets. -/
inductive SetOp where
  | inter
  | diff
  | symmDiff
deriving DecidableEq, Repr, Inhabited

/-- A set of which the closing bracket has not been read. -/
structure OpenSet where
  negated : Bool
  /-- The operation that waits for its right side, with its left side. -/
  pending : Option (SetOp × CharSet)
  /-- What has been listed since. -/
  items : List CharSet
deriving DecidableEq, Repr, Inhabited

namespace OpenSet

/-- The set with one more item. -/
def push (o : OpenSet) (s : CharSet) : OpenSet :=
  { o with items := o.items ++ [s] }

/-- What has been read, with the pending operation done. Its sides are closed under case
first. -/
def value (flags : Flags) (o : OpenSet) : CharSet :=
  let right := CharSet.unions o.items
  match o.pending with
  | none => right
  | some (op, left) =>
    let closed := fun s : CharSet =>
      if !flags.caseless then s else if flags.unicode then .folded s else .asciiFolded s
    match op with
    | .inter => .inter (closed left) (closed right)
    | .diff => .diff (closed left) (closed right)
    | .symmDiff => .symmDiff (closed left) (closed right)

/-- The set after an operator: its right side is still to come. -/
def operate (flags : Flags) (op : SetOp) (o : OpenSet) : OpenSet :=
  ⟨o.negated, some (op, o.value flags), []⟩

/-- The set as its closing bracket leaves it. -/
def close (flags : Flags) (o : OpenSet) : Option CharSet :=
  flags.close o.negated (o.value flags)

end OpenSet

/-! ## Opening a set -/

/-- Read hyphens at the start of a set; they stand for themselves. -/
def readLeadingHyphens (flags : Flags) : (fuel : Nat) → OpenSet → List Char →
    Option (OpenSet × List Char)
  | 0, _, _ => none
  | fuel + 1, o, cs =>
    match cs with
    | [] => none
    | '-' :: rest => readLeadingHyphens flags fuel (o.push (.char '-')) (flags.skip rest)
    | _ => some (o, cs)

/-- Read the start of a set after its opening bracket: a circumflex, hyphens, and a closing
bracket that stands for itself because it comes first. -/
def openSet (flags : Flags) (cs : List Char) : Option (OpenSet × List Char) :=
  let cs := flags.skip cs
  let (negated, cs) :=
    match cs with
    | '^' :: rest => (true, flags.skip rest)
    | _ => (false, cs)
  match readLeadingHyphens flags (cs.length + 1) ⟨negated, none, []⟩ cs with
  | none => none
  | some (o, ']' :: rest) =>
    if o.items.isEmpty then
      match flags.skip rest with
      | [] => none
      | rest => some (o.push (.char ']'), rest)
    else some (o, ']' :: rest)
  | some (o, rest) => some (o, rest)

/-! ## Items -/

/-- Read a named ASCII set after its opening `[`, as in `[:alpha:]`. -/
def readAsciiSet (flags : Flags) : List Char → Option (Option CharSet × List Char)
  | ':' :: rest =>
    let (negated, rest) :=
      match rest with
      | '^' :: rest => (true, rest)
      | _ => (false, rest)
    match rest.dropWhile (· != ':') with
    | ':' :: ']' :: after =>
      (CharSet.ofAsciiName? (rest.takeWhile (· != ':'))).map fun s =>
        (flags.close negated s, after)
    | _ => none
  | _ => none

/-- Read an item: an escape sequence or any character. -/
def readItem (flags : Flags) : List Char → Option (Escape × List Char)
  | [] => none
  | '\\' :: rest => readEscape flags rest
  | c :: rest => some (.literal c false, rest)

/-- The character of an item that can bound a range. Sets of bytes hold ASCII only. -/
def Escape.char? (flags : Flags) : Escape → Option Char
  | .literal c _ => if flags.unicode || c.toNat < 0x80 then some c else none
  | _ => none

/-- The set of an item. -/
def Escape.set? (flags : Flags) : Escape → Option CharSet
  | .set s => some s
  | e => (e.char? flags).map .char

/-- The next character that counts after a hyphen. `inComment` is whether a `#` was read. -/
def peekPast : (inComment : Bool) → List Char → Option Char
  | _, [] => none
  | inComment, c :: rest =>
    if isWhiteSpace c then peekPast inComment rest
    else if !inComment && c == '#' then peekPast true rest
    else some c

/-- Whether a hyphen before `rest` stands for itself or begins an operator, and makes no
range. -/
def endsBeforeRange (flags : Flags) (rest : List Char) : Bool :=
  let next := if flags.verbose then peekPast false rest else rest.head?
  next == some ']' || next == some '-'

/-- Read an item or a range. -/
def readRange (flags : Flags) (cs : List Char) : Option (CharSet × List Char) :=
  match readItem flags cs with
  | none => none
  | some (first, rest) =>
    match flags.skip rest with
    | [] => none
    | '-' :: rest =>
      if endsBeforeRange flags rest then (first.set? flags).map fun s => (s, '-' :: rest)
      else
        match flags.skip rest with
        | [] => none
        | rest =>
          match readItem flags rest with
          | none => none
          | some (last, rest) =>
            match first.char? flags, last.char? flags with
            | some a, some b => if a ≤ b then some (.range a b, rest) else none
            | _, _ => none
    | rest => (first.set? flags).map fun s => (s, rest)

/-! ## The whole set -/

/-- Read the rest of the sets that are open, `current` being the innermost. -/
def readOpenSets (flags : Flags) : (fuel : Nat) → (current : OpenSet) → (outer : List OpenSet) →
    List Char → Option (CharSet × List Char)
  | 0, _, _, _ => none
  | fuel + 1, current, outer, cs =>
    match flags.skip cs with
    | [] => none
    | '[' :: rest =>
      match readAsciiSet flags rest with
      | some (some s, rest) => readOpenSets flags fuel (current.push s) outer rest
      | some (none, _) => none
      | none =>
        match openSet flags rest with
        | none => none
        | some (inner, rest) => readOpenSets flags fuel inner (current :: outer) rest
    | ']' :: rest =>
      match current.close flags with
      | none => none
      | some s =>
        match outer with
        | [] => some (s, rest)
        | parent :: outer => readOpenSets flags fuel (parent.push s) outer rest
    | '&' :: '&' :: rest => readOpenSets flags fuel (current.operate flags .inter) outer rest
    | '-' :: '-' :: rest => readOpenSets flags fuel (current.operate flags .diff) outer rest
    | '~' :: '~' :: rest => readOpenSets flags fuel (current.operate flags .symmDiff) outer rest
    | cs =>
      match readRange flags cs with
      | none => none
      | some (s, rest) => readOpenSets flags fuel (current.push s) outer rest

/-- Read a set after its opening bracket. -/
def readBracket (flags : Flags) (cs : List Char) : Option (CharSet × List Char) :=
  match openSet flags cs with
  | none => none
  | some (o, rest) => readOpenSets flags (cs.length + 1) o [] rest

end CellSearch.Regex
