import Packrat.Pattern
import Packrat.Node
import Packrat.Text.Quoted

/-!
# Matcher

Matchers are the building blocks of grammars: immutable trees that say which tokens they accept.
Every matcher has a number that identifies it, and two matchers are the same if their numbers are.
What a matcher accepts is its `Shape`, given over the matchers directly inside it.
-/

namespace Packrat

/-- What a matcher accepts, in terms of its parts, which are of type `M`. -/
inductive Shape (M : Type) where
  /-- One token with exactly this text. -/
  | literal (text : String)
  /-- One token whose whole text matches the pattern. -/
  | pattern (p : Pattern)
  /-- One token of this kind. -/
  | ofKind (kind : TokenKind)
  | sequence (parts : List M)
  /-- The first alternative that matches. -/
  | firstOf (choices : List M)
  | optional (part : M)
  | oneOrMore (part : M)
  | zeroOrMore (part : M)
  /-- Looks ahead: what follows has to match. -/
  | next (part : M)
  /-- Looks ahead: what follows may not match. -/
  | nextNot (part : M)
  | endOfInput
  | nothing
  /-- What the part consumes becomes one token of this kind. -/
  | token (kind : TokenKind) (part : M)
  /-- What the part consumes becomes trivia. -/
  | trivia (kind : TriviaKind) (part : M)
  /-- The part, but only where the next token touches the one before it. -/
  | adjacent (part : M)
  /-- A reference to the rule of this name. -/
  | rule (name : String)

/-- The matchers directly inside.  The body of a rule belongs to the grammar, not to the reference
to it. -/
def Shape.parts {M : Type} : Shape M → List M
  | sequence ms | firstOf ms => ms
  | optional m | oneOrMore m | zeroOrMore m | next m | nextNot m | token _ m | trivia _ m
  | adjacent m => [m]
  | literal _ | pattern _ | ofKind _ | endOfInput | nothing | rule _ => []

/-- A numbered matcher. -/
structure Matcher where
  id : Nat
  shape : Shape Matcher

instance : Inhabited Matcher :=
  ⟨0, .nothing⟩

namespace Matcher

/-- The name of the rule, if the matcher is a reference to one. -/
def ruleName? (m : Matcher) : Option String :=
  match m.shape with
  | .rule name => some name
  | _ => none

def isRule (m : Matcher) : Bool :=
  m.ruleName?.isSome

/-- The matchers directly inside. -/
def parts (m : Matcher) : List Matcher :=
  m.shape.parts

/-! ### Induction over the parts -/

mutual

/-- What holds of a matcher whenever it holds of its parts holds of every matcher. -/
theorem induction_parts {P : Matcher → Prop} (step : ∀ m, (∀ m' ∈ m.parts, P m') → P m) :
    ∀ m, P m
  | ⟨id, s⟩ => step ⟨id, s⟩ (forall_mem_parts step s)

theorem forall_mem_parts {P : Matcher → Prop} (step : ∀ m, (∀ m' ∈ m.parts, P m') → P m) :
    ∀ s : Shape Matcher, ∀ m ∈ s.parts, P m
  | .sequence ms | .firstOf ms => forall_mem step ms
  | .optional m | .oneOrMore m | .zeroOrMore m | .next m | .nextNot m | .token _ m
  | .trivia _ m | .adjacent m => fun _ h => List.eq_of_mem_singleton h ▸ induction_parts step m
  | .literal _ | .pattern _ | .ofKind _ | .endOfInput | .nothing | .rule _ =>
    fun _ h => absurd h List.not_mem_nil

theorem forall_mem {P : Matcher → Prop} (step : ∀ m, (∀ m' ∈ m.parts, P m') → P m) :
    ∀ ms : List Matcher, ∀ m ∈ ms, P m
  | [] => fun _ h => absurd h List.not_mem_nil
  | m :: ms => List.forall_mem_cons.mpr ⟨induction_parts step m, forall_mem step ms⟩

end

/-! ### Text -/

/-- A call: a name and its arguments in parentheses. -/
def callText (name : String) (args : List String) : String :=
  name ++ "(" ++ ", ".intercalate args ++ ")"

mutual

/-- The matcher as its author might have written it. -/
def render : Matcher → String
  | ⟨_, s⟩ => renderShape s

def renderShape : Shape Matcher → String
  | .literal text => quoted text
  | .pattern p => callText "regexp" [quoted p.source]
  | .ofKind k => k.name
  | .sequence ms => callText "sequence" (renderList ms)
  | .firstOf ms => callText "first_of" (renderList ms)
  | .optional m => callText "optional" [m.render]
  | .oneOrMore m => callText "one_or_more" [m.render]
  | .zeroOrMore m => callText "zero_or_more" [m.render]
  | .next m => callText "next" [m.render]
  | .nextNot m => callText "next_not" [m.render]
  | .endOfInput => callText "end_of_input" []
  | .nothing => callText "nothing" []
  | .token k m => callText "token" [k.name, m.render]
  | .trivia .comment m => callText "comment_trivia" [m.render]
  | .trivia .skippedText m => callText "skipped_trivia" [m.render]
  | .adjacent m => callText "adjacent" [m.render]
  | .rule name => name

def renderList : List Matcher → List String
  | [] => []
  | m :: ms => m.render :: renderList ms

end

/-! ### References to rules -/

mutual

/-- The names of all rules that the matcher refers to, from left to right. -/
def references : Matcher → List String
  | ⟨_, s⟩ => referencesShape s

def referencesShape : Shape Matcher → List String
  | .rule name => [name]
  | .sequence ms | .firstOf ms => referencesList ms
  | .optional m | .oneOrMore m | .zeroOrMore m | .next m | .nextNot m | .token _ m
  | .trivia _ m | .adjacent m => m.references
  | .literal _ | .pattern _ | .ofKind _ | .endOfInput | .nothing => []

def referencesList : List Matcher → List String
  | [] => []
  | m :: ms => m.references ++ referencesList ms

end

end Matcher

end Packrat
