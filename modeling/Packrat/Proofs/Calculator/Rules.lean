import Packrat.Calculator.Grammar
import Packrat.Proofs.Grammar.Workshop

/-!
# Proofs — Calculator — Rules

The rules of the calculator as they are built.  Every body is written here as the matcher that it
becomes, where the next matcher has the number `n`.

**Built** (`grammar_eq`): the calculator grammar can be built for each of its rules as the root, and
these are its rules.
-/

namespace Packrat.Calculator

open Pattern

/-! ### The pattern for decimal fractions -/

def digitsExpr : Expr :=
  .rounds (.char (.range 48 57)) 1 none

/-- Digits, a dot and digits, which are all of the text. -/
def decimalPattern : Pattern :=
  ⟨"[0-9]+\\.[0-9]+", .cat (.look .textStart)
    (.cat (.group false (.cat digitsExpr (.cat (.char (.range 46 46)) digitsExpr)))
      (.look .textEnd))⟩

theorem ofSource?_decimal : Pattern.ofSource? "[0-9]+\\.[0-9]+" = some decimalPattern := by
  with_unfolding_all rfl

/-! ### Bodies -/

section

variable (n : Nat)

def itemRule : Matcher :=
  ⟨n + 6, .firstOf [
    ⟨n + 1, .trivia .comment ⟨n, .ofKind .comment⟩⟩,
    ⟨n + 4, .trivia .skippedText ⟨n + 3, .oneOrMore ⟨n + 2, .literal ";"⟩⟩⟩,
    ⟨n + 5, .rule "statement"⟩]⟩

def programRule : Matcher :=
  ⟨n + 9, .sequence [⟨n + 7, .zeroOrMore (itemRule n)⟩, ⟨n + 8, .endOfInput⟩]⟩

def statementRule : Matcher :=
  ⟨n + 7, .sequence [
    ⟨n + 2, .firstOf [⟨n, .rule "assignment"⟩, ⟨n + 1, .rule "expression"⟩]⟩,
    ⟨n + 6, .firstOf [⟨n + 5, .literal ";"⟩, ⟨n + 4, .next ⟨n + 3, .endOfInput⟩⟩]⟩]⟩

def assignmentRule : Matcher :=
  ⟨n + 4, .sequence [⟨n, .literal "let"⟩, ⟨n + 1, .rule "name"⟩, ⟨n + 2, .literal "="⟩,
    ⟨n + 3, .rule "expression"⟩]⟩

/-- One literal for each sign. -/
def literals (n : Nat) : List Char → List Matcher
  | [] => []
  | c :: cs => ⟨n, .literal c.toString⟩ :: literals (n + 1) cs

def linkRule (operand : String) (operators : List Char) : Matcher :=
  ⟨n + operators.length + 2, .sequence [
    ⟨n + operators.length, .firstOf (literals n operators)⟩,
    ⟨n + operators.length + 1, .rule operand⟩]⟩

def chainRule (operand : String) (operators : List Char) : Matcher :=
  ⟨n + operators.length + 5, .sequence [
    ⟨n + operators.length + 4, .rule operand⟩,
    ⟨n + operators.length + 3, .zeroOrMore (linkRule n operand operators)⟩]⟩

def powerRule : Matcher :=
  ⟨n + 9, .sequence [
    ⟨n + 8, .rule "unary"⟩,
    ⟨n + 7, .optional ⟨n + 6, .sequence [
      ⟨n + 4, .token power ⟨n + 3, .sequence [
        ⟨n + 2, .literal "*"⟩, ⟨n + 1, .adjacent ⟨n, .literal "*"⟩⟩]⟩⟩,
      ⟨n + 5, .rule "power"⟩]⟩⟩]⟩

def unaryRule : Matcher :=
  ⟨n + 3, .sequence [⟨n + 1, .optional ⟨n, .literal "-"⟩⟩, ⟨n + 2, .rule "primary"⟩]⟩

def primaryRule : Matcher :=
  ⟨n + 7, .firstOf [
    ⟨n + 4, .rule "number"⟩, ⟨n + 5, .rule "call"⟩, ⟨n + 6, .rule "name"⟩,
    ⟨n + 3, .sequence [⟨n, .literal "("⟩, ⟨n + 1, .rule "expression"⟩, ⟨n + 2, .literal ")"⟩]⟩]⟩

def callRule : Matcher :=
  ⟨n + 5, .sequence [⟨n + 2, .rule "name"⟩, ⟨n + 1, .adjacent ⟨n, .literal "("⟩⟩,
    ⟨n + 3, .rule "arguments"⟩, ⟨n + 4, .literal ")"⟩]⟩

def moreRule : Matcher :=
  ⟨n + 2, .sequence [⟨n, .literal ","⟩, ⟨n + 1, .rule "expression"⟩]⟩

def argumentsRule : Matcher :=
  ⟨n + 7, .firstOf [
    ⟨n + 5, .sequence [⟨n + 4, .rule "expression"⟩, ⟨n + 3, .zeroOrMore (moreRule n)⟩]⟩,
    ⟨n + 6, .nothing⟩]⟩

def nameRule : Matcher :=
  ⟨n + 3, .sequence [⟨n + 1, .nextNot ⟨n, .literal "let"⟩⟩, ⟨n + 2, .ofKind .identifier⟩]⟩

def numberRule : Matcher :=
  ⟨n + 2, .firstOf [⟨n, .pattern decimalPattern⟩, ⟨n + 1, .ofKind number⟩]⟩

end

/-- The rules with their bodies. -/
def rules : List (String × Matcher) :=
  [("program", programRule 0), ("statement", statementRule 11), ("assignment", assignmentRule 20),
    ("expression", chainRule 26 "term" ['+', '-']),
    ("term", chainRule 35 "power" ['*', '/', '%']), ("power", powerRule 45),
    ("unary", unaryRule 56), ("primary", primaryRule 61), ("call", callRule 70),
    ("arguments", argumentsRule 77), ("name", nameRule 86), ("number", numberRule 91)]

/-! ### Building -/

section

variable (n : Nat)

theorem runFrom_programBody : Build.runFrom programBody n = (.ok (programRule n), n + 10) := rfl

theorem runFrom_statementBody :
    Build.runFrom statementBody n = (.ok (statementRule n), n + 8) := rfl

theorem runFrom_assignmentBody :
    Build.runFrom assignmentBody n = (.ok (assignmentRule n), n + 5) := rfl

theorem runFrom_signs (cs : List Char) :
    Build.runFrom (Input.resolveAll .firstOf (cs.map .char)) n =
      (.ok (literals n cs), n + cs.length) := by
  induction cs generalizing n with
  | nil => rfl
  | cons c cs ih =>
      have hc : Build.runFrom ((Input.char c).resolve .firstOf) n =
        (.ok ⟨n, .literal c.toString⟩, n + 1) := rfl
      simp only [List.map_cons, Input.resolveAll, runFrom_bind, hc, ih, runFrom_pure, literals,
        List.length_cons]
      congr 1
      omega

theorem runFrom_powerBody : Build.runFrom powerBody n = (.ok (powerRule n), n + 10) := rfl

theorem runFrom_unaryBody : Build.runFrom unaryBody n = (.ok (unaryRule n), n + 4) := rfl

theorem runFrom_primaryBody : Build.runFrom primaryBody n = (.ok (primaryRule n), n + 8) := rfl

theorem runFrom_callBody : Build.runFrom callBody n = (.ok (callRule n), n + 6) := rfl

theorem runFrom_argumentsBody :
    Build.runFrom argumentsBody n = (.ok (argumentsRule n), n + 8) := rfl

theorem runFrom_nameBody : Build.runFrom nameBody n = (.ok (nameRule n), n + 4) := rfl

theorem runFrom_numberBody (n : Nat) :
    Build.runFrom numberBody n = (.ok (numberRule n), n + 3) := by
  simp only [numberBody, Matcher.regexp, ofSource?_decimal]
  rfl

end

/-- An operand and operators, of which there are several. -/
theorem runFrom_chainBody (n : Nat) (operand : String) (c c' : Char) (cs : List Char) :
    Build.runFrom (chainBody operand (c :: c' :: cs)) n =
      (.ok (chainRule n operand (c :: c' :: cs)), n + (c :: c' :: cs).length + 6) := by
  have hsigns : Build.runFrom (signs (c :: c' :: cs)) n =
      (.ok ⟨n + (c :: c' :: cs).length, .firstOf (literals n (c :: c' :: cs))⟩,
        n + (c :: c' :: cs).length + 1) := by
    simp only [signs, Matcher.firstOf, Input.resolveSome, runFrom_bind, runFrom_signs]
    rfl
  simp only [chainBody, runFrom_bind, hsigns]
  rfl

/-- Rules are defined one after the other; the reference to each gets a number, too. -/
theorem runFrom_defineAll_cons {d : Draft} {name : String} {body : Build Matcher} {m : Matcher}
    {l : List (String × Build Matcher)} {n n' : Nat} (hd : d.isDefined name = false)
    (hb : Build.runFrom body n = (.ok m, n')) :
    (defineAll ((name, body) :: l)).runFrom d n =
      (defineAll l).runFrom ⟨d.rules ++ [(name, m)], d.order ++ [name]⟩ (n' + 1) := by
  have hm : Build.runFrom (Matcher.sequence [.matcher m]) n' = (.ok m, n') := rfl
  have hnot := mt Draft.isDefined_iff_mem_names.mpr (Bool.eq_false_iff.mp hd)
  simp only [defineAll, Drafting.runFrom_bind, Drafting.runFrom_lift, hb, runFrom_define, hd,
    Bool.false_eq_true, if_false, hm, putRule_of_notMem hnot]

theorem runFrom_defineAll :
    (defineAll bodies).runFrom .blank 0 = ((.ok (), ⟨rules, ruleNames⟩), 95) := by
  simp only [bodies]
  rw [runFrom_defineAll_cons (by decide) (runFrom_programBody _),
    runFrom_defineAll_cons (by decide) (runFrom_statementBody _),
    runFrom_defineAll_cons (by decide) (runFrom_assignmentBody _),
    runFrom_defineAll_cons (by decide) (runFrom_chainBody _ _ _ _ _),
    runFrom_defineAll_cons (by decide) (runFrom_chainBody _ _ _ _ _),
    runFrom_defineAll_cons (by decide) (runFrom_powerBody _),
    runFrom_defineAll_cons (by decide) (runFrom_unaryBody _),
    runFrom_defineAll_cons (by decide) (runFrom_primaryBody _),
    runFrom_defineAll_cons (by decide) (runFrom_callBody _),
    runFrom_defineAll_cons (by decide) (runFrom_argumentsBody _),
    runFrom_defineAll_cons (by decide) (runFrom_nameBody _),
    runFrom_defineAll_cons (by decide) (runFrom_numberBody _)]
  rfl

/-- The draft with these rules can be built. -/
theorem runFrom_build_rules {root : String} (hroot : root ∈ ruleNames) :
    Build.runFrom (Draft.build ⟨rules, ruleNames⟩ root) 95 =
      (.ok ⟨⟨95, .rule root⟩, rules, ruleNames⟩, 96) := by
  have hdefined : ∀ root ∈ ruleNames, Draft.isDefined ⟨rules, ruleNames⟩ root = true := by decide
  have hdangling : Draft.firstDangling? ⟨rules, ruleNames⟩ = none := by decide
  rw [runFrom_build, if_pos (hdefined root hroot), hdangling]

/-- **Built.** -/
theorem grammar_eq {root : String} (hroot : root ∈ ruleNames) :
    grammar root = .ok ⟨⟨95, .rule root⟩, rules, ruleNames⟩ := by
  unfold grammar
  change ((draftGrammar root).runFrom .blank 0).1.1 = _
  simp only [draftGrammar, Drafting.runFrom_bind, runFrom_defineAll, Drafting.runFrom_get,
    Drafting.runFrom_lift, runFrom_build_rules hroot]

end Packrat.Calculator
