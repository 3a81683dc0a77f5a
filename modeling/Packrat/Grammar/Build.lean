import Packrat.Matcher

/-!
# Grammar — Build

Building matchers.  Builders take *inputs*, which stand for matchers in several forms, and number
every matcher they make.  The first mistake in an input, from left to right, is the builder's error;
a builder's error can itself be an input, so that a mistake in an inner call is the error of the
outermost one.  One input alone is passed through as it is.
-/

namespace Packrat

/-- The builders that take inputs. -/
inductive Operator where
  | sequence
  | firstOf
  | optional
  | oneOrMore
  | zeroOrMore
  | next
  | nextNot
  | token
  | commentTrivia
  | skippedTrivia
  | adjacent
  deriving DecidableEq

/-- The name shown to users. -/
def Operator.name : Operator → String
  | sequence => "sequence"
  | firstOf => "first_of"
  | optional => "optional"
  | oneOrMore => "one_or_more"
  | zeroOrMore => "zero_or_more"
  | next => "next"
  | nextNot => "next_not"
  | token => "token"
  | commentTrivia => "comment_trivia"
  | skippedTrivia => "skipped_trivia"
  | adjacent => "adjacent"

/-- What can be wrong with how a grammar is put together. -/
inductive GrammarError where
  | emptyLiteral
  | noInputs (operator : Operator)
  | invalidPattern (source : String)
  /-- A token was to get the kind of the rule `rule`. -/
  | tokenOfRule (rule : String)
  | ruleRedefined (rule : String)
  | undefinedRule (rule name : String)
  | undefinedRoot (root : String)
  deriving DecidableEq

def GrammarError.message : GrammarError → String
  | emptyLiteral => "literals cannot be empty"
  | noInputs o => "`" ++ o.name ++ "` needs at least one input"
  | invalidPattern p => "`" ++ p ++ "` is not a valid regular expression"
  | tokenOfRule r =>
    "`" ++ Operator.token.name ++ "` does not accept the rule node type `" ++ r ++ "`"
  | ruleRedefined r => "the rule `" ++ r ++ "` is defined more than once"
  | undefinedRule r n => "the rule `" ++ r ++ "` refers to `" ++ n ++ "`, which is not defined"
  | undefinedRoot r => "the root rule `" ++ r ++ "` is not defined"

/-- What can stand where a builder needs a matcher. -/
inductive Input where
  /-- Used as it is. -/
  | matcher (m : Matcher)
  /-- One token with exactly this text. -/
  | text (s : String)
  /-- One token that is exactly this character. -/
  | char (c : Char)
  | tokenKind (k : TokenKind)
  /-- A rule stands for a reference to it, a kind of token for a token of that kind. -/
  | node (k : NodeKind)
  /-- Each in order. -/
  | many (inputs : List Input)
  /-- The mistake of an inner call. -/
  | invalid (e : GrammarError)

instance : Inhabited Input :=
  ⟨.many []⟩

/-- Building numbers the matchers it makes: the state is the number of the next one. -/
abbrev Build := ExceptT GrammarError (StateM Nat)

namespace Matcher

/-- A new matcher, with a number that no matcher had before. -/
def make (s : Shape Matcher) : Build Matcher := do
  let n ← getModify (· + 1)
  return ⟨n, s⟩

/-- A single part as it is, and several parts in a new matcher. -/
def ofParts (shape : List Matcher → Shape Matcher) : List Matcher → Build Matcher
  | [m] => return m
  | ms => make (shape ms)

/-- One token with exactly the given text. -/
def literal (text : String) : Build Matcher :=
  if text.isEmpty then throw .emptyLiteral else make (.literal text)

/-- One token whose whole text matches the pattern. -/
def regexp (source : String) : Build Matcher :=
  match Pattern.ofSource? source with
  | some p => make (.pattern p)
  | none => throw (.invalidPattern source)

/-- Matches only where all input is consumed. -/
def endOfInput : Build Matcher :=
  make .endOfInput

/-- Always matches and consumes nothing. -/
def nothing : Build Matcher :=
  make .nothing

/-- A reference to a rule, which may be defined later. -/
def rule (name : String) : Build Matcher :=
  make (.rule name)

end Matcher

namespace Input

/-- The result of an inner call as an input. -/
def ofResult : Except GrammarError Matcher → Input
  | .ok m => .matcher m
  | .error e => .invalid e

mutual

/-- The matcher that an input stands for, where the builder `o` needs one. -/
def resolve (o : Operator) : Input → Build Matcher
  | .matcher m => return m
  | .text s => Matcher.literal s
  | .char c => Matcher.make (.literal c.toString)
  | .tokenKind k => Matcher.make (.ofKind k)
  | .node (.token k) => Matcher.make (.ofKind k)
  | .node (.rule name) => Matcher.rule name
  | .many [] => throw (.noInputs o)
  | .many (i :: is) => do
    let m ← resolve .sequence i
    let ms ← resolveAll .sequence is
    Matcher.ofParts .sequence (m :: ms)
  | .invalid e => throw e

/-- The matchers that the inputs stand for, in order. -/
def resolveAll (o : Operator) : List Input → Build (List Matcher)
  | [] => return []
  | i :: is => do
    let m ← resolve o i
    let ms ← resolveAll o is
    return m :: ms

end

/-- The matchers for the inputs of a builder, which needs one at least. -/
def resolveSome (o : Operator) (is : List Input) : Build (List Matcher) := do
  let ms ← resolveAll o is
  if ms.isEmpty then throw (.noInputs o) else return ms

end Input

namespace Matcher

/-- All inputs one after the other. -/
def sequence (is : List Input) : Build Matcher := do
  ofParts .sequence (← Input.resolveSome .sequence is)

/-- The first of the inputs that matches. -/
def firstOf (is : List Input) : Build Matcher := do
  ofParts .firstOf (← Input.resolveSome .firstOf is)

/-- The input if it matches, else nothing. -/
def optional (i : Input) : Build Matcher := do
  make (.optional (← i.resolve .optional))

/-- The input as often as possible, at least once. -/
def oneOrMore (i : Input) : Build Matcher := do
  make (.oneOrMore (← i.resolve .oneOrMore))

/-- The input as often as possible. -/
def zeroOrMore (i : Input) : Build Matcher := do
  make (.zeroOrMore (← i.resolve .zeroOrMore))

/-- Matches where the input would, without consuming anything. -/
def next (i : Input) : Build Matcher := do
  make (.next (← i.resolve .next))

/-- Matches where the input would not, without consuming anything. -/
def nextNot (i : Input) : Build Matcher := do
  make (.nextNot (← i.resolve .nextNot))

/-- What the input consumes, as one token of the given kind. -/
def token (kind : NodeKind) (i : Input) : Build Matcher :=
  match kind with
  | .token k => do make (.token k (← i.resolve .token))
  | .rule name => throw (.tokenOfRule name)

/-- What the input consumes, as a comment instead of a part of the tree. -/
def commentTrivia (i : Input) : Build Matcher := do
  make (.trivia .comment (← i.resolve .commentTrivia))

/-- What the input consumes, as skipped text instead of a part of the tree. -/
def skippedTrivia (i : Input) : Build Matcher := do
  make (.trivia .skippedText (← i.resolve .skippedTrivia))

/-- The input, only where the next token starts right where the one before it ended. -/
def adjacent (i : Input) : Build Matcher := do
  make (.adjacent (← i.resolve .adjacent))

end Matcher

end Packrat
