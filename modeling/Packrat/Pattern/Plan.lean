import Packrat.Pattern.Expr
import Packrat.Pattern.Interval

/-!
# Pattern — Plan

How a pattern is laid out before a machine is made of it.  Characters that follow each other become
one literal, characters and classes to choose from become one class, and parts that do nothing go
away; what all branches of a choice start with is taken out of it.  The functions `of…` keep to
this, whatever they are given.
-/

namespace Packrat.Pattern

/-- The layout of a pattern. -/
inductive Plan where
  | empty
  | literal (text : List Char)
  /-- One of several characters, or of none. -/
  | set (s : Intervals)
  | look (l : Look)
  | rounds (body : Plan) (low : Nat) (high : Option Nat)
  /-- A group whose place in the text can be asked for. -/
  | capture (body : Plan)
  | sequence (parts : List Plan)
  | choice (branches : List Plan)

namespace Plan

/-! ### Comparison -/

mutual

/-- Are the plans the same?  Groups whose place can be asked for are different from each other. -/
def same : Plan → Plan → Bool
  | empty, empty => true
  | literal s, literal t => s = t
  | set s, set t => s = t
  | look l, look m => l = m
  | rounds a low high, rounds b low' high' => a.same b && low = low' && high = high'
  | sequence as, sequence bs => sameList as bs
  | choice as, choice bs => sameList as bs
  | _, _ => false

def sameList : List Plan → List Plan → Bool
  | [], [] => true
  | a :: as, b :: bs => a.same b && sameList as bs
  | _, _ => false

end

/-- The parts that two sequences start with. -/
def commonStart : List Plan → List Plan → List Plan
  | a :: as, b :: bs => if a.same b then a :: commonStart as bs else []
  | _, _ => []

/-! ### Length -/

/-- The length of a character in bytes of UTF-8, by its number. -/
def byteLength (n : Nat) : Nat :=
  if n < 0x80 then 1 else if n < 0x800 then 2 else if n < 0x10000 then 3 else 4

mutual

/-- The length in bytes of the shortest text that is taken up; none if there is a class without
characters. -/
def minLength? : Plan → Option Nat
  | empty | look _ => some 0
  | literal text => some (text.foldl (fun n c => n + c.utf8Size) 0)
  | set s => s.head?.map fun b => byteLength b.1
  | rounds a low _ => a.minLength?.map (· * low)
  | capture a => a.minLength?
  | sequence as => minLengthAll? as
  | choice as => minLengthAny? as

def minLengthAll? : List Plan → Option Nat
  | [] => some 0
  | a :: as => do return (← a.minLength?) + (← minLengthAll? as)

def minLengthAny? : List Plan → Option Nat
  | [] => none
  | [a] => a.minLength?
  | a :: as => do return min (← a.minLength?) (← minLengthAny? as)

end

mutual

/-- Does it take up nothing but the empty text? -/
def isEmpty : Plan → Bool
  | empty | look _ => true
  | literal _ | set _ => false
  | rounds a _ high => high.isSome && a.isEmpty
  | capture a => a.isEmpty
  | sequence as | choice as => areEmpty as

def areEmpty : List Plan → Bool
  | [] => true
  | a :: as => a.isEmpty && areEmpty as

end

/-! ### Layout -/

/-- One character is a literal. -/
def ofSet : Intervals → Plan
  | [(a, b)] => if a = b then literal [Char.ofNat a] else set [(a, b)]
  | s => set s

/-- The parts of a sequence, or the plan alone. -/
def parts : Plan → List Plan
  | empty => []
  | sequence as => as
  | a => [a]

/-- Makes one literal out of literals that follow each other. -/
def joinLiterals : List Plan → List Plan
  | [] => []
  | literal s :: as =>
    match joinLiterals as with
    | literal t :: bs => literal (s ++ t) :: bs
    | bs => literal s :: bs
  | a :: as => a :: joinLiterals as

/-- One plan after the other. -/
def ofSequence (as : List Plan) : Plan :=
  match joinLiterals (as.flatMap parts) with
  | [] => empty
  | [a] => a
  | as => sequence as

/-- The branches of a choice, or the plan alone. -/
def branches : Plan → List Plan
  | choice as => as
  | a => [a]

/-- The character of a literal that has only one. -/
def char? : Plan → Option Char
  | literal [c] => some c
  | _ => none

def set? : Plan → Option Intervals
  | set s => some s
  | _ => none

def sequence? : Plan → Option (List Plan)
  | sequence as => some as
  | _ => none

/-- A choice of characters, or of classes, is a class. -/
def joinBranches : List Plan → Plan
  | [a] => a
  | as =>
    match as.mapM char?, as.mapM set? with
    | some cs, _ => ofSet (.ofBounds (cs.map fun c => (c.toNat, c.toNat)))
    | none, some ss => ofSet (.ofBounds ss.flatten)
    | none, none => choice as

/-- Takes the common start out of branches that are all sequences, if they have one. -/
def liftStart? (as : List Plan) : Option Plan := do
  match ← as.mapM sequence? with
  | first :: second :: rest =>
    let start := (second :: rest).foldl commonStart first
    if start.isEmpty then none
    else
      let ends := (first :: second :: rest).map fun parts => ofSequence (parts.drop start.length)
      return ofSequence (start ++ [joinBranches (ends.flatMap branches)])
  | _ => none

/-- One of several plans. -/
def ofChoice (as : List Plan) : Plan :=
  let as := as.flatMap branches
  (liftStart? as).getD (joinBranches as)

/-- Rounds of a plan.  Nothing is gained from doing nothing more than once. -/
def ofRounds (a : Plan) (low : Nat) (high : Option Nat) : Plan :=
  let (low, high) := if a.isEmpty then (min low 1, some (min (high.getD 1) 1)) else (low, high)
  match low, high with
  | 0, some 0 => empty
  | 1, some 1 => a
  | low, high => rounds a low high

end Plan

namespace Expr

/-- The plans of the branches that are written side by side. -/
def branchPlans : Expr → List Plan
  | empty => [.empty]
  | char s => [.ofSet s.intervals]
  | look l => [.look l]
  | cat a b => [.ofSequence [.ofChoice a.branchPlans, .ofChoice b.branchPlans]]
  | alt a b => .ofChoice a.branchPlans :: b.branchPlans
  | group captured a =>
    let body := Plan.ofChoice a.branchPlans
    [if captured then .capture body else body]
  | rounds a low high => [.ofRounds (.ofChoice a.branchPlans) low high]

/-- The plan of an expression. -/
def plan (e : Expr) : Plan :=
  .ofChoice e.branchPlans

end Expr

end Packrat.Pattern
