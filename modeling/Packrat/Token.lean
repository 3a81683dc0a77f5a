import Packrat.Text.Span

/-!
# Token

Tokens are what a grammar matches against: a kind, a text and a place.  A token carries the trivia
(comments, skipped text) that stood before it, and trivia are made of tokens themselves.
Equality of tokens takes everything into account, trivia included.
-/

namespace Packrat

/-- The part of a token that a grammar can match without looking at the text.  Kinds are told apart
by their names. -/
structure TokenKind where
  name : String
  deriving DecidableEq, Inhabited

namespace TokenKind

def identifier : TokenKind := ⟨"IDENTIFIER"⟩

def punctuator : TokenKind := ⟨"PUNCTUATOR"⟩

def comment : TokenKind := ⟨"COMMENT"⟩

end TokenKind

/-- What trivia are. -/
inductive TriviaKind where
  | comment
  | skippedText
  deriving DecidableEq, Inhabited

/-- The name shown to users. -/
def TriviaKind.name : TriviaKind → String
  | .comment => "comment"
  | .skippedText => "skipped text"

/-- Tokens of type `τ` that are not part of a syntax tree. -/
structure Trivia (τ : Type) where
  kind : TriviaKind
  tokens : List τ
  deriving Inhabited

/-- A lexeme and the place where it starts. -/
structure Token where
  kind : TokenKind
  text : String
  caret : Caret
  trivia : List (Trivia Token)
  deriving Inhabited

/-! ### Equality -/

mutual

/-- Are two tokens the same in all parts? -/
def Token.beq : Token → Token → Bool
  | ⟨k, t, c, tr⟩, ⟨k', t', c', tr'⟩ => k = k' && t = t' && c = c' && Token.beqTrivia tr tr'

def Token.beqTrivia : List (Trivia Token) → List (Trivia Token) → Bool
  | [], [] => true
  | ⟨k, ts⟩ :: r, ⟨k', ts'⟩ :: r' => k = k' && Token.beqList ts ts' && Token.beqTrivia r r'
  | _, _ => false

def Token.beqList : List Token → List Token → Bool
  | [], [] => true
  | t :: r, t' :: r' => t.beq t' && Token.beqList r r'
  | _, _ => false

end

mutual

theorem Token.beq_iff : ∀ a b : Token, a.beq b = true ↔ a = b
  | ⟨_, _, _, tr⟩, ⟨_, _, _, tr'⟩ => by
    simp [Token.beq, Token.beqTrivia_iff tr tr', and_assoc]

theorem Token.beqTrivia_iff :
    ∀ a b : List (Trivia Token), Token.beqTrivia a b = true ↔ a = b
  | [], [] => by simp [Token.beqTrivia]
  | ⟨_, ts⟩ :: r, ⟨_, ts'⟩ :: r' => by
    simp [Token.beqTrivia, Token.beqList_iff ts ts', Token.beqTrivia_iff r r']
  | [], _ :: _ => by simp [Token.beqTrivia]
  | _ :: _, [] => by simp [Token.beqTrivia]

theorem Token.beqList_iff : ∀ a b : List Token, Token.beqList a b = true ↔ a = b
  | [], [] => by simp [Token.beqList]
  | t :: r, t' :: r' => by simp [Token.beqList, Token.beq_iff t t', Token.beqList_iff r r']
  | [], _ :: _ => by simp [Token.beqList]
  | _ :: _, [] => by simp [Token.beqList]

end

instance : DecidableEq Token := fun a b =>
  decidable_of_iff _ (Token.beq_iff a b)

instance : DecidableEq (Trivia Token) := fun a b =>
  decidable_of_iff (a.kind = b.kind ∧ a.tokens = b.tokens) (by cases a; cases b; simp)

/-! ### Trivia -/

namespace Trivia

variable (t : Trivia Token)

def isComment : Bool :=
  t.kind = .comment

def isSkippedText : Bool :=
  t.kind = .skippedText

def first? : Option Token :=
  t.tokens.head?

/-- The texts of the tokens, with single spaces between them. -/
def text : String :=
  " ".intercalate (t.tokens.map (·.text))

end Trivia

/-! ### Tokens -/

namespace Token

/-- A token without trivia. -/
def ofText (kind : TokenKind) (text : String) (caret : Caret) : Token :=
  ⟨kind, text, caret, []⟩

variable (t : Token)

/-- The same token under another kind. -/
def retag (kind : TokenKind) : Token :=
  { t with kind := kind }

def line : Nat :=
  t.caret.line

def column : Nat :=
  t.caret.column

/-- The column after the last character; a token does not go past the end of its line. -/
def endColumn : Nat :=
  t.column + t.text.length

/-- The caret after the last character. -/
def endCaret : Caret :=
  ⟨t.line, t.endColumn⟩

def span : Span :=
  .between t.caret t.endCaret

def hasTrivia : Bool :=
  !t.trivia.isEmpty

/-- The comments that stood before the token. -/
def comments : List (Trivia Token) :=
  t.trivia.filter (·.isComment)

end Token

end Packrat
