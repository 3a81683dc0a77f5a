import Packrat.Pattern.Machine
import Packrat.Pattern.Meaning
import Packrat.Pattern.Read

/-!
# Pattern

Regular expressions for the texts of tokens.  A pattern is compiled as `^(?:…)$` around its source,
so that it matches whole texts; a source is a valid pattern if that whole is well formed.
-/

namespace Packrat

/-- A valid pattern: what was written, and the expression that it stands for. -/
structure Pattern where
  source : String
  expr : Pattern.Expr

namespace Pattern

/-- The source between the two ends of a text. -/
def anchored (source : String) : String :=
  "^(?:" ++ source ++ ")$"

/-- The expression for a source as it stands, if it is well formed and its machines fit into the
room there is. -/
def compile? (source : String) : Option Expr := do
  let w ← readPattern? source.toList
  let (e, _) ← w.meaning .initial
  if e.plan.fits then return e else none

def ofSource? (source : String) : Option Pattern :=
  (compile? (anchored source)).map (⟨source, ·⟩)

/-- Does the pattern match the text? -/
def accepts (p : Pattern) (text : String) : Bool :=
  p.expr.findsIn text.toList.toArray

end Pattern

end Packrat
