import CellSearch.Interval
import CellSearch.Regex.Syntax
import CellSearch.Text.Bytes

/-!
# Search for a pattern

A pattern is searched by following all its ways at once, in order of preference. What is left
to match is a list of patterns, a *tail*; the tails reached so far are the threads of the
search. A step through the text takes each thread to the tails that remain after one character
(its partial derivatives), keeps the first of equal tails, and drops the threads less preferred
than one that has matched. The number of different tails is bounded by the size of the pattern,
so that no pattern takes exponential time.

* `Regex.steps` — the ways to begin a pattern, most preferred first;
* `Regex.matchLength?` — the length of the preferred match at one place;
* `Regex.findAll` — the matches in a text, from left to right, without overlap and without
  empty ones.
-/

namespace CellSearch.Regex

open CellSearch.Unicode CellSearch.Text

/-! ## Conditions -/

/-- The characters on either side of a place in a text. -/
structure Place where
  before : Option Char
  after : Option Char
deriving DecidableEq, Repr, Inhabited

/-- Whether there is a word character on a side of a place. -/
def isWord (ascii : Bool) (side : Option Char) : Bool :=
  side.any fun c => if ascii then CharSet.asciiWord.contains c else isPatternWordChar c

/-- Whether a condition holds at a place. -/
def Look.holds (p : Place) : Look → Bool
  | textStart => p.before.isNone
  | textEnd => p.after.isNone
  | lineStart => p.before.all (· == '\n')
  | lineEnd => p.after.all (· == '\n')
  | lineStartCrlf =>
    p.before.all fun c => c == '\n' || (c == '\r' && p.after != some '\n')
  | lineEndCrlf =>
    p.after.all fun c => c == '\r' || (c == '\n' && p.before != some '\r')
  | wordBoundary ascii => isWord ascii p.before != isWord ascii p.after
  | notWordBoundary ascii => isWord ascii p.before == isWord ascii p.after
  | wordStart ascii => !isWord ascii p.before && isWord ascii p.after
  | wordEnd ascii => isWord ascii p.before && !isWord ascii p.after
  | wordStartHalf ascii => !isWord ascii p.before
  | wordEndHalf ascii => !isWord ascii p.after

/-! ## First steps -/

/-- A way to begin a pattern. -/
inductive Step where
  /-- Match nothing more. -/
  | accept
  /-- Take one character of a set and go on with a tail. -/
  | take (s : CharSet) (tail : List Regex)
deriving DecidableEq, Repr, Inhabited

namespace Step

/-- Whether the step ends the match. -/
def isAccept : Step → Bool
  | accept => true
  | take _ _ => false

/-- The step with more to match after it. -/
def andThen (more : List Regex) : Step → Step
  | accept => accept
  | take s tail => take s (tail ++ more)

end Step

/-- Without the steps that end the match. -/
def withoutAccept (steps : List Step) : List Step :=
  steps.filter fun s => !s.isAccept

/-- First `a`, then `b`; a second way to end the match adds nothing. -/
def orElse (a b : List Step) : List Step :=
  if a.any Step.isAccept then a ++ withoutAccept b else a ++ b

/-- Put `more` after every step, and the ways to begin `more` where the first match ends. These
are asked for only if one ends. -/
def continueWith (more : List Regex) (onEnd : Unit → List Step) : List Step → List Step
  | [] => []
  | .accept :: rest => onEnd () ++ (withoutAccept rest).map (Step.andThen more)
  | .take s tail :: rest => .take s (tail ++ more) :: continueWith more onEnd rest

/-- The ways to match `body` a given number of times, from those to begin it. -/
def timesSteps (body : Regex) (first : List Step) : Nat → List Step
  | 0 => [.accept]
  | n + 1 => continueWith [.times body n] (fun _ => timesSteps body first n) first

/-- The ways to match `body` at most a given number of times, from those to begin it. -/
def upToSteps (body : Regex) (greedy : Bool) (first : List Step) : Nat → List Step
  | 0 => [.accept]
  | n + 1 =>
    let round :=
      continueWith [.upTo body n greedy] (fun _ => upToSteps body greedy first n) first
    if greedy then orElse round [.accept] else orElse [.accept] round

/-- The ways to begin a pattern at a place, most preferred first. -/
def steps (p : Place) : Regex → List Step
  | .empty => [.accept]
  | .set s => [.take s []]
  | .look l => if l.holds p then [.accept] else []
  | .seq a b => continueWith [b] (fun _ => steps p b) (steps p a)
  | .alt a b => orElse (steps p a) (steps p b)
  | .times r n => timesSteps r (steps p r) n
  | .upTo r n greedy => upToSteps r greedy (steps p r) n
  | .plus r greedy => (steps p r).map (Step.andThen [.again r greedy])
  | .again r greedy =>
    let round := (withoutAccept (steps p r)).map (Step.andThen [.again r greedy])
    if greedy then round ++ [.accept] else .accept :: round

/-- The ways to begin a tail at a place. -/
def tailSteps (p : Place) : List Regex → List Step
  | [] => [.accept]
  | r :: rest => continueWith rest (fun _ => tailSteps p rest) (steps p r)

/-! ## Matching at one place -/

/-- The threads that are left after one character. -/
def advance (live : List Step) (c : Char) : List (List Regex) :=
  (live.filterMap fun
    | .accept => none
    | .take s tail => if s.contains c then some tail else none).eraseDups

/-- Follow the threads through a text of which `used` bytes have been taken. The answer is the
length of the match that the preferred thread ends with, or else `best`. -/
def follow : (threads : List (List Regex)) → (before : Option Char) → (rest : List Char) →
    (used : Nat) → (best : Option Nat) → Option Nat
  | threads, before, rest, used, best =>
    let ways := threads.flatMap (tailSteps ⟨before, rest.head?⟩)
    let live := ways.takeWhile fun s => !s.isAccept
    let best := if ways.any Step.isAccept then some used else best
    match rest with
    | [] => best
    | c :: rest =>
      match advance live c with
      | [] => best
      | thread :: others =>
        follow (thread :: others) (some c) rest (used + c.utf8Size) best

/-- The length of the preferred match of a pattern at the start of `rest`, if there is one. -/
def matchLength? (r : Regex) (before : Option Char) (rest : List Char) : Option Nat :=
  follow [[r]] before rest 0 none

/-! ## Matching everywhere -/

/-- The matches that begin at byte `resume` or later. `offset` is where `rest` begins. -/
def findFrom (r : Regex) : (before : Option Char) → (rest : List Char) →
    (offset resume : Nat) → List Interval
  | _, [], _, _ => []
  | before, c :: rest, offset, resume =>
    if offset < resume then findFrom r (some c) rest (offset + c.utf8Size) resume
    else
      match matchLength? r before (c :: rest) with
      | some (n + 1) =>
        .ofLength offset (n + 1) ::
          findFrom r (some c) rest (offset + c.utf8Size) (offset + (n + 1))
      | _ => findFrom r (some c) rest (offset + c.utf8Size) resume

/-- The matches of a pattern in a text, from left to right and without overlap. Where the
preferred match is empty, there is none. -/
def findAll (r : Regex) (text : List Char) : List Interval :=
  findFrom r none text 0 0

end CellSearch.Regex
