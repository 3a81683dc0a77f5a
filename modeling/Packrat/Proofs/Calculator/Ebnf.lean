import Packrat.Proofs.Calculator.Terminals
import Packrat.Proofs.Grammar.Ebnf

/-!
# Proofs — Calculator — Ebnf

The documented grammar of the calculator, as it is written down next to the rules.

**Written** (`tabled_ebnf`): the bodies of the rules look for what the grammar says, so what they
match is derived in it.
-/

namespace Packrat.Calculator

open Pattern

/-- What programs consist of. -/
def item : Ebnf :=
  .alts [
    .dropped (.ofKind .comment),
    .dropped (.cat (.text ";") (.many (.text ";"))),
    .rule "statement"]

/-- An operator and an operand after it. -/
def link (operand : String) (operators : List Char) : Ebnf :=
  .cat (.alts (operators.map fun c => .text c.toString)) (.rule operand)

/-- Operands with operators between them. -/
def chain (operand : String) (operators : List Char) : Ebnf :=
  .cat (.rule operand) (.many (link operand operators))

/-- Another argument. -/
def more : Ebnf :=
  .cat (.text ",") (.rule "expression")

/-- The rules as they are documented.  Comments and stray semicolons are not in the tree, and `**`
is one token there. -/
def ebnf : List (String × Ebnf) :=
  [("program", .cat (.many item) .atEnd),
    ("statement", .cat (.alt (.rule "assignment") (.rule "expression")) (.alt (.text ";") .atEnd)),
    ("assignment", .cats [.text "let", .rule "name", .text "=", .rule "expression"]),
    ("expression", chain "term" ['+', '-']),
    ("term", chain "power" ['*', '/', '%']),
    ("power", .cat (.rule "unary") (.opt
      (.cat (.merged power (.cat (.text "*") (.adjacent (.text "*")))) (.rule "power")))),
    ("unary", .cat (.opt (.text "-")) (.rule "primary")),
    ("primary", .alts [.rule "number", .rule "call", .rule "name",
      .cats [.text "(", .rule "expression", .text ")"]]),
    ("call", .cats [.rule "name", .adjacent (.text "("), .rule "arguments", .text ")"]),
    ("arguments", .alt (.cat (.rule "expression") (.many more)) .nothing),
    ("name", .cat (.butNot keywords) (.ofKind .identifier)),
    ("number", .alt (.matching IsDecimal) (.ofKind number))]

/-! ### Written -/

section

open Writes

theorem writes_literals (n i : Nat) : ∀ cs : List Char, cs ≠ [] →
    Writes ⟨i, .firstOf (literals n cs)⟩ (.alts (cs.map fun c => .text c.toString))
  | [c], _ => firstOf_one literal
  | c :: c' :: cs, _ => firstOf_more literal (writes_literals (n + 1) i (c' :: cs) (by simp))

theorem writes_chain (n : Nat) (operand : String) {operators : List Char} (h : operators ≠ []) :
    Writes (chainRule n operand operators) (chain operand operators) :=
  sequence_more rule (sequence_one (zeroOrMore
    (sequence_more (writes_literals n _ operators h) (sequence_one rule))))

/-- **Written.** -/
theorem tabled_ebnf : Tabled rules ebnf := by
  refine .cons ⟨rfl, ?program⟩ <| .cons ⟨rfl, ?statement⟩ <| .cons ⟨rfl, ?assignment⟩ <|
    .cons ⟨rfl, ?expression⟩ <| .cons ⟨rfl, ?term⟩ <| .cons ⟨rfl, ?power⟩ <| .cons ⟨rfl, ?unary⟩ <|
    .cons ⟨rfl, ?primary⟩ <| .cons ⟨rfl, ?call⟩ <| .cons ⟨rfl, ?arguments⟩ <| .cons ⟨rfl, ?name⟩ <|
    .cons ⟨rfl, ?number⟩ .nil
  case program =>
    exact sequence_more
      (zeroOrMore (firstOf_more (trivia ofKind)
        (firstOf_more (trivia (oneOrMore literal)) (firstOf_one rule))))
      (sequence_one endOfInput)
  case statement =>
    exact sequence_more (firstOf_more rule (firstOf_one rule))
      (sequence_one (firstOf_more literal (firstOf_one beforeEnd)))
  case assignment =>
    exact sequence_more literal
      (sequence_more rule (sequence_more literal (sequence_one rule)))
  case expression | term => exact writes_chain _ _ (by simp)
  case power =>
    exact sequence_more rule (sequence_one (optional
      (sequence_more (token (sequence_more literal (sequence_one (adjacent literal))))
        (sequence_one rule))))
  case unary => exact sequence_more (optional literal) (sequence_one rule)
  case primary =>
    exact firstOf_more rule (firstOf_more rule (firstOf_more rule (firstOf_one
      (sequence_more literal (sequence_more rule (sequence_one literal))))))
  case call =>
    exact sequence_more rule
      (sequence_more (adjacent literal) (sequence_more rule (sequence_one literal)))
  case arguments =>
    exact firstOf_more (sequence_more rule
      (sequence_one (zeroOrMore (sequence_more literal (sequence_one rule))))) (firstOf_one nothing)
  case name => exact sequence_more notWord (sequence_one ofKind)
  case number =>
    exact firstOf_more (pattern fun _ => isDecimal_of_accepts) (firstOf_one ofKind)

end

end Packrat.Calculator
