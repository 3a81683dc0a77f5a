import Packrat.Diagnostic
import Packrat.Text.Blank
import Packrat.Text.Identifier
import Packrat.Text.Sign
import Packrat.Token

/-!
# Calculator — Lexer

Splitting the text of a calculator program into tokens.  White space between tokens is skipped.  A
token is a comment from `//` to the end of the line, a number with an optional fraction, a word, or
a single sign; the grammar puts longer operators together.
-/

namespace Packrat.Calculator

/-- Integers and decimal fractions. -/
def number : TokenKind := ⟨"NUMBER"⟩

/-- Why no token could be read, and where. -/
inductive LexError where
  | notStartOfToken (location : Caret) (char : Char)
  /-- A number ends with the dot at the location. -/
  | trailingDot (location : Caret)
  | unexpectedEnd (location : Caret)
  deriving DecidableEq

namespace LexError

def location : LexError → Caret
  | notStartOfToken k _ => k
  | trailingDot k => k
  | unexpectedEnd k => k

def message : LexError → String
  | notStartOfToken _ c => "no token can start with a '" ++ c.toString ++ "'"
  | trailingDot _ => "a number can't end with a '.'"
  | unexpectedEnd _ => "unexpected end of input"

/-- The error for people, which has a place but no label. -/
def diagnostic (e : LexError) : Diagnostic :=
  (Diagnostic.error e.message).located e.location

end LexError

/-- The text that is left, and the caret before it. -/
structure Lexer where
  rest : List Char
  caret : Caret

namespace Lexer

/-- The lexer after the first `n` characters of what is left. -/
def skip (l : Lexer) (n : Nat) : Lexer :=
  ⟨l.rest.drop n, l.caret.after (l.rest.take n)⟩

/-- The lexer after the white space that comes next. -/
def skipBlanks (l : Lexer) : Lexer :=
  ⟨l.rest.dropWhile isBlank, l.caret.after (l.rest.takeWhile isBlank)⟩

/-- The lexer before the first token of a text. -/
def ofText (cs : List Char) : Lexer :=
  skipBlanks ⟨cs, .origin⟩

/-- Is there nothing left? -/
def isEmpty (l : Lexer) : Bool :=
  l.rest.isEmpty

/-- Words start like an identifier or with an underscore. -/
def isWordStart (c : Char) : Bool :=
  c = '_' || isXidStart c

/-- How a number that follows is written: its digits, and the rest of its characters if there is a
fraction; `none` if it ends with a dot. -/
def numberLength? (cs : List Char) : Option Nat :=
  let digits := (cs.takeWhile Char.isDigit).length
  match cs.drop digits with
  | '.' :: cs =>
    let fraction := (cs.takeWhile Char.isDigit).length
    if fraction = 0 then none else some (digits + 1 + fraction)
  | _ => some digits

/-- The kind and length of the token that comes next. -/
def next (l : Lexer) : Except LexError (TokenKind × Nat) :=
  match l.rest with
  | [] => .error (.unexpectedEnd l.caret)
  | '/' :: '/' :: _ => .ok (.comment, (l.rest.takeWhile (· ≠ '\n')).length)
  | c :: cs =>
    if c.isDigit then
      match numberLength? (c :: cs) with
      | some n => .ok (number, n)
      | none => .error (.trailingDot (l.caret.after (l.rest.takeWhile Char.isDigit)))
    else if isWordStart c then .ok (.identifier, 1 + (cs.takeWhile isXidContinue).length)
    else if isSign c then .ok (.punctuator, 1)
    else .error (.notStartOfToken l.caret c)

/-- Where the lexer stands after an error: a number and its dot have been read by then, and nothing
otherwise. -/
def afterError (l : Lexer) : LexError → Lexer
  | .trailingDot _ => l.skip ((l.rest.takeWhile Char.isDigit).length + 1)
  | _ => l

/-- Reads one token, and goes on to the start of the next one. -/
def token (l : Lexer) : Except LexError Token × Lexer :=
  match l.next with
  | .ok (kind, n) =>
    (.ok (.ofText kind (.ofList (l.rest.take n)) l.caret), (l.skip n).skipBlanks)
  | .error e => (.error e, l.afterError e)

/-- Reads all tokens; `fuel` bounds their number. -/
def tokensFrom : (fuel : Nat) → Lexer → Except LexError (List Token)
  | 0, _ => .ok []
  | fuel + 1, l =>
    if l.isEmpty then .ok []
    else
      match l.token with
      | (.ok t, l) => do
        let ts ← tokensFrom fuel l
        return t :: ts
      | (.error e, _) => .error e

/-- All tokens of a text.  Every token has a character at least, so there are no more tokens than
characters. -/
def tokens (text : String) : Except LexError (List Token) :=
  let cs := text.toList
  tokensFrom cs.length (ofText cs)

end Lexer

end Packrat.Calculator
