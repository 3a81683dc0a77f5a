import Packrat.Pattern.CharSet
import Packrat.Pattern.Written

/-!
# Pattern — Expr

Patterns as expressions over sets of characters, and which texts they match.  An expression is read
as a relation between positions of the text: `Expr.reach` gives, for a set of positions, the
positions to which the expression leads from one of them.  Whether a text matches does not depend on
any order of trying, so no order is kept.
-/

namespace Packrat.Pattern

/-- What a word is made of. -/
inductive WordKind where
  | unicode
  | ascii
  deriving DecidableEq

/-- A condition on the place between two characters. -/
inductive Look where
  | textStart
  | textEnd
  | lineStart
  | lineEnd
  /-- Lines may also end with a carriage return, which is not split from a line feed after it. -/
  | returnLineStart
  | returnLineEnd
  | wordBoundary (k : WordKind)
  | noWordBoundary (k : WordKind)
  | wordStart (k : WordKind)
  | wordEnd (k : WordKind)
  | wordStartHalf (k : WordKind)
  | wordEndHalf (k : WordKind)
  deriving DecidableEq

/-- A pattern with a meaning. -/
inductive Expr where
  | empty
  | char (s : CharSet)
  | look (l : Look)
  | cat (a b : Expr)
  | alt (a b : Expr)
  /-- A part in parentheses; its place in the text can be asked for if it is captured. -/
  | group (captured : Bool) (a : Expr)
  /-- At least `low` rounds, and at most `high` if there is a bound. -/
  | rounds (a : Expr) (low : Nat) (high : Option Nat)

/-! ### Places -/

def WordKind.has : WordKind → Option Char → Bool
  | _, none => false
  | .unicode, some c => CharSet.wordChars.has c
  | .ascii, some c => CharSet.asciiWordChars.has c

/-- Does the condition hold between these two characters?  There is none before the start of the
text and none after its end. -/
def Look.holds : Look → Option Char → Option Char → Bool
  | textStart, before, _ => before.isNone
  | textEnd, _, after => after.isNone
  | lineStart, before, _ => before.isNone || before = some '\n'
  | lineEnd, _, after => after.isNone || after = some '\n'
  | returnLineStart, before, after =>
    before.isNone || before = some '\n' || (before = some '\r' && after ≠ some '\n')
  | returnLineEnd, before, after =>
    after.isNone || after = some '\r' || (after = some '\n' && before ≠ some '\r')
  | wordBoundary k, before, after => k.has before != k.has after
  | noWordBoundary k, before, after => k.has before == k.has after
  | wordStart k, before, after => !k.has before && k.has after
  | wordEnd k, before, after => k.has before && !k.has after
  | wordStartHalf k, before, _ => !k.has before
  | wordEndHalf k, _, after => !k.has after

/-- Does the condition hold at position `i` of the text? -/
def Look.holdsAt (l : Look) (text : Array Char) (i : Nat) : Bool :=
  l.holds (if i = 0 then none else text[i - 1]?) text[i]?

/-! ### Matching -/

/-- Adds the positions that are not there yet. -/
def addNew (seen new : List Nat) : List Nat :=
  new.foldl (fun acc i => if acc.contains i then acc else i :: acc) seen

/-- Goes on in rounds from `seen`, of which `front` is new: at most `fuel` more of them, and none
once nothing new is found. -/
def closure (step : List Nat → List Nat) : (fuel : Nat) → (seen front : List Nat) → List Nat
  | 0, seen, _ => seen
  | fuel + 1, seen, front =>
    let new := (step front).filter fun i => !seen.contains i
    if new.isEmpty then seen else closure step fuel (addNew seen new) new

/-- Applies `step` a fixed number of times. -/
def iterate (step : List Nat → List Nat) : (count : Nat) → List Nat → List Nat
  | 0, ps => ps
  | count + 1, ps => if ps.isEmpty then [] else iterate step count (step ps)

namespace Expr

/-- The positions that the expression leads to from one of the given ones.  A round leads onwards or
stays where it is, so no more rounds than there are positions are of any use. -/
def reach (text : Array Char) : Expr → List Nat → List Nat
  | empty, ps => ps
  | char s, ps => addNew [] ((ps.filter fun i => text[i]?.any s.has).map (· + 1))
  | look l, ps => ps.filter (l.holdsAt text)
  | cat a b, ps => b.reach text (a.reach text ps)
  | alt a b, ps => addNew (a.reach text ps) (b.reach text ps)
  | group _ a, ps => a.reach text ps
  | rounds a low high, ps =>
    let reached := iterate (a.reach text) (min low (text.size + 1)) ps
    let more := match high with
      | some n => min (n - low) (text.size + 1)
      | none => text.size + 1
    closure (a.reach text) more reached reached

/-- Does the expression match somewhere in the text? -/
def findsIn (e : Expr) (text : Array Char) : Bool :=
  !(e.reach text (List.range (text.size + 1))).isEmpty

/-- Expressions one after the other. -/
def cats : List Expr → Expr
  | [] => empty
  | [a] => a
  | a :: as => cat a (cats as)

/-- A choice of expressions; without any, nothing matches. -/
def alts : List Expr → Expr
  | [] => char .none
  | [a] => a
  | a :: as => alt a (alts as)

end Expr

end Packrat.Pattern
