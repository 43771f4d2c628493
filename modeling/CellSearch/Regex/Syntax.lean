import CellSearch.Regex.CharSet

/-!
# Patterns

The abstract form of a pattern. Groups have left no trace: search reports where a pattern
matches and not which part matched what.

Repetition has two forms without an upper bound. `plus r` matches `r` once or more; `again r` is
what remains of it after a round, when it may stop or go on. The two differ on a round that
matches nothing: the first may, a later one may not.
-/

namespace CellSearch.Regex

/-- A condition on the place between two characters. -/
inductive Look where
  /-- The start of the text. -/
  | textStart
  /-- The end of the text. -/
  | textEnd
  /-- The start of a line that a line feed ends. -/
  | lineStart
  /-- The end of a line that a line feed ends. -/
  | lineEnd
  /-- The start of a line that a line feed, a carriage return or both end. -/
  | lineStartCrlf
  /-- The end of such a line. -/
  | lineEndCrlf
  /-- A word character on one side only. -/
  | wordBoundary (ascii : Bool)
  /-- Word characters on both sides or on none. -/
  | notWordBoundary (ascii : Bool)
  /-- A word character after and none before. -/
  | wordStart (ascii : Bool)
  /-- A word character before and none after. -/
  | wordEnd (ascii : Bool)
  /-- No word character before. -/
  | wordStartHalf (ascii : Bool)
  /-- No word character after. -/
  | wordEndHalf (ascii : Bool)
deriving DecidableEq, Repr, Inhabited

end CellSearch.Regex

namespace CellSearch

/-- A pattern. -/
inductive Regex where
  /-- The empty text. -/
  | empty
  /-- One character of a set. -/
  | set (s : Regex.CharSet)
  /-- The empty text, where a condition holds. -/
  | look (l : Regex.Look)
  | seq (a b : Regex)
  /-- Either of two, the first preferred. -/
  | alt (a b : Regex)
  /-- A given number of times. -/
  | times (r : Regex) (n : Nat)
  /-- At most a given number of times, as often as possible if greedy. -/
  | upTo (r : Regex) (n : Nat) (greedy : Bool)
  /-- Once or more. -/
  | plus (r : Regex) (greedy : Bool)
  /-- What remains of `plus` after a round. -/
  | again (r : Regex) (greedy : Bool)
deriving DecidableEq, Repr, Inhabited

namespace Regex

/-- Any number of times. -/
def star (r : Regex) (greedy : Bool) : Regex :=
  if greedy then .alt (.plus r greedy) .empty else .alt .empty (.plus r greedy)

/-- At least `n` times. -/
def atLeast (r : Regex) (n : Nat) (greedy : Bool) : Regex :=
  match n with
  | 0 => star r greedy
  | 1 => .plus r greedy
  | n + 2 => .seq (.times r (n + 1)) (.plus r greedy)

/-- At least `least` and at most `most` times. -/
def between (r : Regex) (least most : Nat) (greedy : Bool) : Regex :=
  if least = most then .times r least
  else if least = 0 then .upTo r most greedy
  else .seq (.times r least) (.upTo r (most - least) greedy)

/-- One after the other. -/
def concat : List Regex → Regex
  | [] => .empty
  | [r] => r
  | r :: rest => .seq r (concat rest)

/-- One of several, earlier ones preferred. -/
def oneOf : List Regex → Regex
  | [] => .empty
  | [r] => r
  | r :: rest => .alt r (oneOf rest)

end Regex

end CellSearch
