import Packrat.Node
import Packrat.Text.Quoted

/-!
# Node — Render

The text of a tree: one line per node, indented by two spaces per level, with the name of the
node's kind and, for a node with a token, the token's text in quotes and its place.
-/

namespace Packrat

/-- A token as it stands on its node's line. -/
def Token.mark (t : Token) : String :=
  " " ++ quoted t.text ++ " @ " ++ t.caret.render

namespace Node

mutual

/-- The lines of a tree whose root stands at the given level. -/
def linesAt (level : Nat) : Node → List String
  | ⟨k, t, cs⟩ =>
    (String.ofList (List.replicate (2 * level) ' ') ++ (⟨k, t, cs⟩ : Node).kindName ++
      (t.map (·.mark)).getD "") :: linesListAt (level + 1) cs

def linesListAt (level : Nat) : List Node → List String
  | [] => []
  | n :: r => n.linesAt level ++ linesListAt level r

end

/-- The lines of a tree, each ended by a line feed. -/
def render (n : Node) : String :=
  .join ((n.linesAt 0).map (· ++ "\n"))

end Node

end Packrat
