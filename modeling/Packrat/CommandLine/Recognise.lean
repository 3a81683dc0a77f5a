import Packrat.Calculator.Grammar
import Packrat.CommandLine.Arguments
import Packrat.Diagnostic.Terminal
import Packrat.Node.Render
import Packrat.Parse

/-!
# CommandLine — Recognise

Parsing calculator programs for users: the tree goes to one channel, and problems go to the other as
diagnostics about a named input.
-/

namespace Packrat.CommandLine

/-- What is written to the two channels for output and for problems. -/
structure Written where
  out : String
  err : String

namespace Written

def nothing : Written := ⟨"", ""⟩

/-- First the one, then the other. -/
def append (a b : Written) : Written :=
  ⟨a.out ++ b.out, a.err ++ b.err⟩

instance : Append Written := ⟨append⟩

end Written

def Settings.config (s : Settings) : Config :=
  ⟨s.memoize, s.maxDepth⟩

/-- How diagnostics are laid out on a terminal of unknown width. -/
def terminalLayout : Layout :=
  Layout.standard.withGlyphs .unicode

/-- Reports a problem with an input. -/
def Settings.report (s : Settings) (d : Diagnostic) (name source : String) : Written :=
  let d := d.inInput name
  ⟨"", if s.plain then d.plain else Terminal.render terminalLayout false d (some source)⟩

/-- Parses a text from a rule, or says what is wrong with it. -/
def Settings.recognise (s : Settings) (root name source : String) : Except Written Output :=
  match Calculator.grammar root with
  | .error e => .error ⟨"", "Error: the calculator grammar is broken: " ++ e.message ++ "\n"⟩
  | .ok g =>
    match Calculator.Lexer.tokens source with
    | .error e => .error (s.report e.diagnostic name source)
    | .ok ts =>
      match (g.parse s.config s.trace ts).result with
      | .ok o => .ok o
      | .error e => .error (s.report e.diagnostic name source)

/-- A captured comment on a line of its own. -/
def commentLine (t : Trivia Token) : String :=
  "comment at " ++ (t.first?.map (·.caret.render)).getD "" ++ ": " ++ t.text ++ "\n"

/-- The tree, and the comments after it. -/
def outputText (o : Output) : String :=
  o.root.render ++ .join (o.comments.map commentLine)

end Packrat.CommandLine
