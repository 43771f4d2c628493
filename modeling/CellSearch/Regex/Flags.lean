/-!
# Flags of a pattern

Flags change how the rest of a group is read. They are written as `(?i)` or `(?i-s:…)`.
-/

namespace CellSearch.Regex

/-- The flags in force at a place of a pattern. -/
structure Flags where
  /-- `i`: letters match in either case. -/
  caseless : Bool := false
  /-- `m`: `^` and `$` match at the ends of lines. -/
  multiLine : Bool := false
  /-- `s`: the dot matches a line feed. -/
  dotAll : Bool := false
  /-- `U`: repetition is lazy, and greedy with a question mark. -/
  swapGreed : Bool := false
  /-- `u`: sets and words are those of Unicode. -/
  unicode : Bool := true
  /-- `R`: a carriage return ends a line, too. -/
  crlf : Bool := false
  /-- `x`: white space and comments do not count. -/
  verbose : Bool := false
deriving DecidableEq, Repr, Inhabited

/-- A flag. -/
inductive Flag where
  | caseless
  | multiLine
  | dotAll
  | swapGreed
  | unicode
  | crlf
  | verbose
deriving DecidableEq, Repr, Inhabited

namespace Flag

/-- The flag that a letter stands for. -/
def ofChar? : Char → Option Flag
  | 'i' => some caseless
  | 'm' => some multiLine
  | 's' => some dotAll
  | 'U' => some swapGreed
  | 'u' => some unicode
  | 'R' => some crlf
  | 'x' => some verbose
  | _ => none

/-- The flags with one of them changed. -/
def set (f : Flag) (on : Bool) (flags : Flags) : Flags :=
  match f with
  | caseless => { flags with caseless := on }
  | multiLine => { flags with multiLine := on }
  | dotAll => { flags with dotAll := on }
  | swapGreed => { flags with swapGreed := on }
  | unicode => { flags with unicode := on }
  | crlf => { flags with crlf := on }
  | verbose => { flags with verbose := on }

end Flag

/-- A list of flags to switch on and off. -/
structure FlagChange where
  on : List Flag
  off : List Flag
deriving DecidableEq, Repr, Inhabited

namespace FlagChange

/-- Apply the changes. -/
def apply (change : FlagChange) (flags : Flags) : Flags :=
  change.off.foldl (fun fs f => f.set false fs)
    (change.on.foldl (fun fs f => f.set true fs) flags)

/-- Read flags up to the `)` or `:` that ends them, which stays. No flag comes twice, and a
minus sign comes once at most and not last. `negated` is whether the sign was read,
`dangling` whether it was read last. -/
def read (negated dangling : Bool) (change : FlagChange) :
    List Char → Option (FlagChange × List Char)
  | [] => none
  | c :: rest =>
    if c = ':' ∨ c = ')' then if dangling then none else some (change, c :: rest)
    else if c = '-' then if negated then none else read true true change rest
    else
      match Flag.ofChar? c with
      | none => none
      | some f =>
        if change.on.contains f || change.off.contains f then none
        else if negated then read true false { change with off := change.off ++ [f] } rest
        else read false false { change with on := change.on ++ [f] } rest

/-- Whether nothing was written, not even a minus sign. -/
def isEmpty (change : FlagChange) : Bool :=
  change.on.isEmpty && change.off.isEmpty

end FlagChange

end CellSearch.Regex
