import Packrat.Grammar
import Packrat.Parse.Error

/-!
# Parse

Parsing a list of tokens with a grammar.  The grammar's root rule has to consume all of them.
-/

namespace Packrat

/-- What a successful parse produced: the node of the root rule, and the trivia that were captured,
in the order in which they were matched. -/
structure Output where
  root : Node
  trivia : List (Trivia Token)

/-- The captured trivia that are comments. -/
def Output.comments (o : Output) : List (Trivia Token) :=
  o.trivia.filter (·.isComment)

/-- A finished parse: its result and the state it ended in. -/
structure Run where
  result : Except ParseError Output
  final : State

namespace Run

/-- The events of the parse, if somebody listened. -/
def events (r : Run) : List Event :=
  (r.final.trace.getD #[]).toList

end Run

namespace Grammar

/-- Judges the attempt of the root rule.  Where the root matched but tokens are left, the error is
at the furthest failure or at the first token left, whichever is later. -/
def verdict (tokens : List Token) : Except Failure Match × State → Except ParseError Output
  | (.ok m, s) =>
    if s.atEnd then .ok ⟨m.node, m.trivia⟩
    else .error (.unrecognised tokens (max s.deepest s.cursor))
  | (.error (.backtrack _), s) => .error (.unrecognised tokens s.deepest)
  | (.error (.abort c), _) => .error (.aborted c)

/-- Parses the tokens.  With `listening`, the events of the parse are kept. -/
def parse (g : Grammar) (cfg : Config) (listening : Bool) (tokens : List Token) : Run :=
  let tried := attemptWith cfg g.rules g.root (.start tokens listening)
  ⟨verdict tokens tried, tried.2⟩

/-- Tries a matcher over the rules of the grammar. -/
def attempt (g : Grammar) (m : Matcher) (s : State) : Except Abort Outcome × State :=
  (attemptWith .standard g.rules m).outcome s

end Grammar

end Packrat
