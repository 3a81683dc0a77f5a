import Packrat.Calculator.Lexer
import Packrat.Grammar

/-!
# Calculator — Grammar

```
program    := (comment | stray | statement)* end_of_input
statement  := (assignment | expression) (';' | &end_of_input)
assignment := 'let' name '=' expression
expression := term (('+' | '-') term)*
term       := power (('*' | '/' | '%') power)*
power      := unary ('**' power)?
unary      := '-'? primary
primary    := number | call | name | '(' expression ')'
call       := name <adjacent>'(' arguments ')'
arguments  := expression (',' expression)* | <nothing>
name       := !keyword IDENTIFIER
number     := /[0-9]+\.[0-9]+/ | NUMBER
```

Comments are kept as trivia, and so are runs of stray semicolons.
-/

namespace Packrat.Calculator

/-- The kind of `**`, which the lexer reads as two tokens. -/
def power : TokenKind := ⟨"POWER"⟩

/-- Words that cannot be names. -/
def keywords : List String := ["let"]

/-- The rules of the grammar, in the order of their definition. -/
def ruleNames : List String :=
  ["program", "statement", "assignment", "expression", "term", "power", "unary", "primary",
    "call", "arguments", "name", "number"]

/-- A rule as an input. -/
def ruleInput (name : String) : Input :=
  .node (.rule name)

/-- A single character as an input for each of several signs, of which the first that matches
counts. -/
def signs (cs : List Char) : Build Matcher :=
  Matcher.firstOf (cs.map .char)

/-- The body of `program`. -/
def programBody : Build Matcher := do
  let comment ← Matcher.commentTrivia (.tokenKind .comment)
  let stray ← Matcher.skippedTrivia (.matcher (← Matcher.oneOrMore (.char ';')))
  let item ← Matcher.firstOf [.matcher comment, .matcher stray, ruleInput "statement"]
  let items ← Matcher.zeroOrMore (.matcher item)
  Matcher.sequence [.matcher items, .matcher (← Matcher.endOfInput)]

def statementBody : Build Matcher := do
  let body ← Matcher.firstOf [ruleInput "assignment", ruleInput "expression"]
  let last ← Matcher.next (.matcher (← Matcher.endOfInput))
  let stop ← Matcher.firstOf [.char ';', .matcher last]
  Matcher.sequence [.matcher body, .matcher stop]

def assignmentBody : Build Matcher :=
  Matcher.sequence [.text "let", ruleInput "name", .char '=', ruleInput "expression"]

/-- Operands with one of the given operators between them. -/
def chainBody (operand : String) (operators : List Char) : Build Matcher := do
  let link ← Matcher.sequence [.matcher (← signs operators), ruleInput operand]
  Matcher.sequence [ruleInput operand, .matcher (← Matcher.zeroOrMore (.matcher link))]

def powerBody : Build Matcher := do
  let second ← Matcher.adjacent (.char '*')
  let stars ← Matcher.sequence [.char '*', .matcher second]
  let operator ← Matcher.token (.token power) (.matcher stars)
  let exponent ← Matcher.sequence [.matcher operator, ruleInput "power"]
  Matcher.sequence [ruleInput "unary", .matcher (← Matcher.optional (.matcher exponent))]

def unaryBody : Build Matcher := do
  Matcher.sequence [.matcher (← Matcher.optional (.char '-')), ruleInput "primary"]

def primaryBody : Build Matcher := do
  let nested ← Matcher.sequence [.char '(', ruleInput "expression", .char ')']
  Matcher.firstOf [ruleInput "number", ruleInput "call", ruleInput "name", .matcher nested]

def callBody : Build Matcher := do
  let opening ← Matcher.adjacent (.char '(')
  Matcher.sequence [ruleInput "name", .matcher opening, ruleInput "arguments", .char ')']

def argumentsBody : Build Matcher := do
  let more ← Matcher.sequence [.char ',', ruleInput "expression"]
  let several ← Matcher.sequence
    [ruleInput "expression", .matcher (← Matcher.zeroOrMore (.matcher more))]
  Matcher.firstOf [.matcher several, .matcher (← Matcher.nothing)]

def nameBody : Build Matcher := do
  let keyword ← Matcher.firstOf (keywords.map .text)
  Matcher.sequence [.matcher (← Matcher.nextNot (.matcher keyword)), .tokenKind .identifier]

def numberBody : Build Matcher := do
  Matcher.firstOf [.matcher (← Matcher.regexp "[0-9]+\\.[0-9]+"), .tokenKind number]

/-- The rules of the grammar with their bodies. -/
def bodies : List (String × Build Matcher) :=
  [("program", programBody), ("statement", statementBody), ("assignment", assignmentBody),
    ("expression", chainBody "term" ['+', '-']), ("term", chainBody "power" ['*', '/', '%']),
    ("power", powerBody), ("unary", unaryBody), ("primary", primaryBody), ("call", callBody),
    ("arguments", argumentsBody), ("name", nameBody), ("number", numberBody)]

/-- Defines rules one after the other. -/
def defineAll : List (String × Build Matcher) → Drafting Unit
  | [] => return ()
  | (name, body) :: rest => do
    let m ← body
    let _ ← Draft.define name (.matcher m)
    defineAll rest

/-- Drafts the calculator grammar, and builds it, starting at the rule `root`. -/
def draftGrammar (root : String) : Drafting Grammar := do
  defineAll bodies
  (← get).build root

/-- The calculator grammar, starting at the rule `root`.  Irreducible: proofs know it by its
equation (`grammar_eq`), as nothing that mentions the grammar should make it. -/
@[irreducible] def grammar (root : String) : Except GrammarError Grammar :=
  ((draftGrammar root).run .blank 0).1.1

end Packrat.Calculator
