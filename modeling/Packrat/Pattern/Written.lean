/-!
# Pattern — Written

The written form of a pattern, as its author grouped it: groups, flags and character classes stand
as they were written, and nothing has been given a meaning yet.
-/

namespace Packrat.Pattern

/-- What the letters between `(?` and `)` or `:` switch. -/
inductive Flag where
  | ignoreCase
  | multiLine
  | dotMatchesLineFeed
  | swapGreed
  | unicode
  | carriageReturn
  | extended
  deriving DecidableEq

/-- Flags to be switched, each on or off. -/
abbrev Switches := List (Flag × Bool)

/-- A place in the text, between two characters, that has to be of a certain kind. -/
inductive Place where
  | lineStart
  | lineEnd
  | textStart
  | textEnd
  | wordBoundary
  | noWordBoundary
  | wordStart
  | wordEnd
  | wordStartHalf
  | wordEndHalf
  deriving DecidableEq

/-- A character that stands for itself; `isByte` if it was written as two hexadecimal digits. -/
structure Literal where
  char : Char
  isByte : Bool

/-- The classes that have a letter of their own. -/
inductive LetterClass where
  | digit
  | blank
  | word
  deriving DecidableEq

/-- A property asked for by name, with a value if one was written. -/
structure PropertyQuery where
  name : List Char
  value : Option (List Char)
  negated : Bool

inductive SetOp where
  | inter
  | diff
  | symmDiff

/-- A character class, or a part of one. -/
inductive WrittenSet where
  | literal (l : Literal)
  | range (low high : Literal)
  | ascii (name : String) (negated : Bool)
  | letter (k : LetterClass) (negated : Bool)
  | property (q : PropertyQuery)
  /-- A class in brackets. -/
  | bracketed (negated : Bool) (body : WrittenSet)
  | union (parts : List WrittenSet)
  | op (kind : SetOp) (a b : WrittenSet)

/-- A written pattern. -/
inductive Written where
  | empty
  | flags (fs : Switches)
  | literal (l : Literal)
  | anyChar
  | place (p : Place)
  | letter (k : LetterClass) (negated : Bool)
  | property (q : PropertyQuery)
  | bracketed (negated : Bool) (body : WrittenSet)
  | repeat (body : Written) (low : Nat) (high : Option Nat)
  /-- A part in parentheses; its place in the text can be asked for if it is captured. -/
  | group (captured : Bool) (fs : Switches) (body : Written)
  | concat (parts : List Written)
  | choice (parts : List Written)

/-! ### Nesting -/

namespace WrittenSet

/-- A list of parts as a class: one part is the class itself. -/
def ofParts : List WrittenSet → WrittenSet
  | [a] => a
  | as => union as

mutual

/-- How deeply the class is nested. -/
def depth : WrittenSet → Nat
  | bracketed _ a => a.depth + 1
  | union [] => 0
  | union (a :: as) => max a.depth (depthList as) + 1
  | op _ a b => max a.depth b.depth + 1
  | _ => 0

def depthList : List WrittenSet → Nat
  | [] => 0
  | a :: as => max a.depth (depthList as)

end

end WrittenSet

namespace Written

/-- Parts that follow each other: one part is the whole. -/
def ofConcat : List Written → Written
  | [] => empty
  | [a] => a
  | as => concat as

/-- Parts of which one is chosen: one part is the whole. -/
def ofChoice : List Written → Written
  | [] => empty
  | [a] => a
  | as => choice as

mutual

/-- How deeply the pattern is nested: groups, repetitions, classes, sequences and choices count. -/
def depth : Written → Nat
  | bracketed _ a => a.depth + 1
  | .repeat a _ _ => a.depth + 1
  | group _ _ a => a.depth + 1
  | concat as => depthList as + 1
  | choice as => depthList as + 1
  | _ => 0

def depthList : List Written → Nat
  | [] => 0
  | a :: as => max a.depth (depthList as)

end

/-- Deeper patterns than this are refused. -/
def maxDepth : Nat := 250

end Written

end Packrat.Pattern
