import Packrat.Calculator.Grammar
import Packrat.Walk

/-!
# Calculator — Tally

Counting how often each rule of the calculator appears in syntax trees, and how deeply rules nest.
A tally is a visitor of the nodes of all rules; it starts over when it is added to a walker.
-/

namespace Packrat.Calculator

/-- What has been counted so far. -/
structure Tally where
  files : Nat
  /-- The names of the nodes visited, last one first. -/
  seen : List String
  /-- How many nodes of rules the walker is inside of. -/
  depth : Nat
  maxDepth : Nat

namespace Tally

def zero : Tally := ⟨0, [], 0, 0⟩

/-- How often a rule was seen. -/
def count (t : Tally) (rule : String) : Nat :=
  t.seen.count rule

/-- The nodes that a tally wants to see. -/
def visitor : Visitor Unit :=
  ⟨(), ruleNames.map .rule⟩

/-- Takes one call into account.  A node without a kind has no name, but counts as a level. -/
def record (t : Tally) : Call → Tally
  | .init => zero
  | .visitFile _ => { t with files := t.files + 1 }
  | .visitNode n =>
    { t with
      seen := (n.kind.map (·.name)).toList ++ t.seen
      depth := t.depth + 1
      maxDepth := max t.maxDepth (t.depth + 1) }
  | .leaveNode _ => { t with depth := t.depth - 1 }
  | .subscriptions | .leaveFile _ | .destroy => t

/-- The tally after it has been added to a new walker that scans the given trees. -/
def scan (t : Tally) (roots : List Node) : Tally :=
  let calls := Walker.addCalls visitor ++ (Walker.idle.add visitor).scan roots
  calls.foldl (fun t call => t.record call.2) t

/-- The text with spaces before it up to the given width. -/
def padLeft (width : Nat) (s : String) : String :=
  .ofList (List.replicate (width - s.length) ' ') ++ s

/-- The number of files, the deepest nesting, and a line for each rule that was seen. -/
def report (t : Tally) : String :=
  "files: " ++ toString t.files ++ "\n" ++
    "deepest rule nesting: " ++ toString t.maxDepth ++ "\n" ++
    .join ((ruleNames.filter fun r => t.count r ≠ 0).map fun r =>
      padLeft 12 r ++ ": " ++ toString (t.count r) ++ "\n")

end Tally

end Packrat.Calculator
