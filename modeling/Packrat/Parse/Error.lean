import Packrat.Diagnostic
import Packrat.Parse.Attempt

/-!
# Parse — Error

Why a parse gave no tree.  Input that a grammar does not recognise is reported at the furthest
position that any matcher got to before it failed.
-/

namespace Packrat

/-- Why a parse gave no tree. -/
inductive ParseError where
  /-- The tokens are not in the language of the grammar.  `found` is the token at the position, if
  there is one there, and `location` the place in the text. -/
  | recognition (position : Nat) (found : Option Token) (location : Caret)
  | aborted (cause : Abort)

def Abort.message : Abort → String
  | depthExceeded position limit =>
    "rules nested more than " ++ toString limit ++ " deep at token " ++ toString position
  | undefinedRule name => "the rule `" ++ name ++ "` is not defined"

namespace ParseError

/-- The error for tokens that are not recognised beyond a position.  After the last token, its end
is the place; without tokens, the place is the start. -/
def unrecognised (tokens : List Token) (position : Nat) : ParseError :=
  match tokens[position]? with
  | some t => recognition position (some t) t.caret
  | none => recognition position none ((tokens.getLast?.map (·.endCaret)).getD .origin)

/-- The index of the token where the error is, if it is anywhere. -/
def position? : ParseError → Option Nat
  | recognition p _ _ => some p
  | aborted (.depthExceeded p _) => some p
  | aborted (.undefinedRule _) => none

def message : ParseError → String
  | recognition _ (some t) k => "unexpected `" ++ t.text ++ "` at " ++ k.render
  | recognition _ none k => "unexpected end of input at " ++ k.render
  | aborted c => c.message

/-- The error for people: a token that was not expected gets a label. -/
def diagnostic (e : ParseError) : Diagnostic :=
  let d := Diagnostic.error e.message
  match e with
  | recognition _ (some t) k => (d.located k).addLabel ⟨t.span, some "not expected here"⟩
  | recognition _ none k => d.located k
  | aborted _ => d

end ParseError

end Packrat
