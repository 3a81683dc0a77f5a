import Packrat.Parse

/-!
# Proofs — Peg — Yields

What a matcher does, said without a parser: no cursor, no memo, no count of rules.  `Yields rules
tokens m p o` says that the matcher `m`, tried at position `p` of the tokens, comes to the answer
`o`, which is a match (node, trivia, position after it) or a failure (position).  There is a rule
for every shape and every answer it can give.

* A sequence, a choice and a repetition are read from the left: what is left of them is again a
  sequence, a choice or a repetition, tried where the first part ended.
* A repetition ends with a round that fails or consumes nothing.
* A left-recursive matcher has no derivation, so it yields nothing.

**Uniqueness** (`Yields.unique`): a matcher yields at most one answer at a position.  **Bounds**
(`Yields.within`): answers lie between the position and the end of the tokens.
-/

namespace Packrat

/-! ### Answers -/

/-- What trying a matcher comes to. -/
inductive Answer where
  | matched (node : Node) (trivia : List (Trivia Token)) (stop : Nat)
  | failed (position : Nat)

/-- A match without its stamp. -/
def Match.answer (r : Match) : Answer :=
  .matched r.node r.trivia r.stop

/-- An outcome without the stamp of its match. -/
def Outcome.answer : Outcome → Answer
  | .matched r => r.answer
  | .failed p => .failed p

/-! ### Tokens -/

/-- Several tokens as one: all their texts, in the place of the first. -/
def Token.merged (kind : TokenKind) (t : Token) (ts : List Token) : Token :=
  ⟨kind, .join ((t :: ts).map (·.text)), t.caret, t.trivia⟩

/-- The node for tokens that become one; no tokens leave a node that has only the kind. -/
def Node.ofMerged (kind : TokenKind) : List Token → Node
  | [] => ⟨some (.token kind), none, []⟩
  | t :: ts => ⟨some (.token kind), some (.merged kind t ts), []⟩

/-- There are tokens on both sides of the position, on one line and with nothing between them. -/
def Touching (tokens : List Token) (p : Nat) : Prop :=
  ∃ q previous next, p = q + 1 ∧ tokens[q]? = some previous ∧ tokens[p]? = some next ∧
    next.line = previous.line ∧ next.column ≤ previous.endColumn

/-! ### The rules of matching -/

section

variable (rules : List (String × Matcher)) (tokens : List Token)

/-- Tried at a position of the tokens, the matcher comes to the answer. -/
inductive Yields : Matcher → Nat → Answer → Prop where
  | literal {i p text t} : tokens[p]? = some t → t.text = text →
      Yields ⟨i, .literal text⟩ p (.matched (.leaf t) [] (p + 1))
  | literal_fails {i p text} : (∀ t, tokens[p]? = some t → t.text ≠ text) →
      Yields ⟨i, .literal text⟩ p (.failed p)
  | pattern {i p r t} : tokens[p]? = some t → r.accepts t.text = true →
      Yields ⟨i, .pattern r⟩ p (.matched (.leaf t) [] (p + 1))
  | pattern_fails {i p r} : (∀ t, tokens[p]? = some t → r.accepts t.text ≠ true) →
      Yields ⟨i, .pattern r⟩ p (.failed p)
  | ofKind {i p k t} : tokens[p]? = some t → t.kind = k →
      Yields ⟨i, .ofKind k⟩ p (.matched (.leaf t) [] (p + 1))
  | ofKind_fails {i p k} : (∀ t, tokens[p]? = some t → t.kind ≠ k) →
      Yields ⟨i, .ofKind k⟩ p (.failed p)
  | sequence_nil {i p} : Yields ⟨i, .sequence []⟩ p (.matched .empty [] p)
  | sequence_cons {i p m ms n tr e n' tr' e'} : Yields m p (.matched n tr e) →
      Yields ⟨i, .sequence ms⟩ e (.matched n' tr' e') →
      Yields ⟨i, .sequence (m :: ms)⟩ p (.matched (.group [n, n']) (tr ++ tr') e')
  | sequence_head_fails {i p m ms q} : Yields m p (.failed q) →
      Yields ⟨i, .sequence (m :: ms)⟩ p (.failed q)
  | sequence_tail_fails {i p m ms n tr e q} : Yields m p (.matched n tr e) →
      Yields ⟨i, .sequence ms⟩ e (.failed q) → Yields ⟨i, .sequence (m :: ms)⟩ p (.failed q)
  | firstOf_nil {i p} : Yields ⟨i, .firstOf []⟩ p (.failed p)
  | firstOf_head {i p m ms n tr e} : Yields m p (.matched n tr e) →
      Yields ⟨i, .firstOf (m :: ms)⟩ p (.matched n tr e)
  | firstOf_tail {i p m ms q n tr e} : Yields m p (.failed q) →
      Yields ⟨i, .firstOf ms⟩ p (.matched n tr e) →
      Yields ⟨i, .firstOf (m :: ms)⟩ p (.matched n tr e)
  | firstOf_fails {i p m ms q q'} : Yields m p (.failed q) →
      Yields ⟨i, .firstOf ms⟩ p (.failed q') →
      Yields ⟨i, .firstOf (m :: ms)⟩ p (.failed (max q q'))
  | optional {i p m n tr e} : Yields m p (.matched n tr e) →
      Yields ⟨i, .optional m⟩ p (.matched n tr e)
  | optional_none {i p m q} : Yields m p (.failed q) →
      Yields ⟨i, .optional m⟩ p (.matched .empty [] p)
  | zeroOrMore_none {i p m q} : Yields m p (.failed q) →
      Yields ⟨i, .zeroOrMore m⟩ p (.matched .empty [] p)
  | zeroOrMore_last {i p m n tr} : Yields m p (.matched n tr p) →
      Yields ⟨i, .zeroOrMore m⟩ p (.matched (.group [n]) tr p)
  | zeroOrMore_more {i p m n tr e n' tr' e'} : Yields m p (.matched n tr e) → e ≠ p →
      Yields ⟨i, .zeroOrMore m⟩ e (.matched n' tr' e') →
      Yields ⟨i, .zeroOrMore m⟩ p (.matched (.group [n, n']) (tr ++ tr') e')
  | oneOrMore_fails {i p m q} : Yields m p (.failed q) → Yields ⟨i, .oneOrMore m⟩ p (.failed q)
  | oneOrMore_last {i p m n tr} : Yields m p (.matched n tr p) →
      Yields ⟨i, .oneOrMore m⟩ p (.matched (.group [n]) tr p)
  | oneOrMore_more {i p m n tr e n' tr' e'} : Yields m p (.matched n tr e) → e ≠ p →
      Yields ⟨i, .zeroOrMore m⟩ e (.matched n' tr' e') →
      Yields ⟨i, .oneOrMore m⟩ p (.matched (.group [n, n']) (tr ++ tr') e')
  | next {i p m n tr e} : Yields m p (.matched n tr e) →
      Yields ⟨i, .next m⟩ p (.matched .empty [] p)
  | next_fails {i p m q} : Yields m p (.failed q) → Yields ⟨i, .next m⟩ p (.failed q)
  | nextNot {i p m q} : Yields m p (.failed q) →
      Yields ⟨i, .nextNot m⟩ p (.matched .empty [] p)
  | nextNot_fails {i p m n tr e} : Yields m p (.matched n tr e) →
      Yields ⟨i, .nextNot m⟩ p (.failed p)
  | endOfInput {i p} : tokens.length ≤ p → Yields ⟨i, .endOfInput⟩ p (.matched .empty [] p)
  | endOfInput_fails {i p} : p < tokens.length → Yields ⟨i, .endOfInput⟩ p (.failed p)
  | nothing {i p} : Yields ⟨i, .nothing⟩ p (.matched .empty [] p)
  | token {i p k m n tr e} : Yields m p (.matched n tr e) →
      Yields ⟨i, .token k m⟩ p (.matched (.ofMerged k (tokens.extract p e)) tr e)
  | token_fails {i p k m q} : Yields m p (.failed q) → Yields ⟨i, .token k m⟩ p (.failed q)
  | trivia {i p k m n tr e} : Yields m p (.matched n tr e) →
      Yields ⟨i, .trivia k m⟩ p (.matched .empty (tr ++ [⟨k, tokens.extract p e⟩]) e)
  | trivia_fails {i p k m q} : Yields m p (.failed q) → Yields ⟨i, .trivia k m⟩ p (.failed q)
  | adjacent {i p m o} : Touching tokens p → Yields m p o → Yields ⟨i, .adjacent m⟩ p o
  | adjacent_fails {i p m} : ¬ Touching tokens p → Yields ⟨i, .adjacent m⟩ p (.failed p)
  | rule {i p name body n tr e} : rules.lookup name = some body →
      Yields body p (.matched n tr e) →
      Yields ⟨i, .rule name⟩ p (.matched ⟨some (.rule name), none, n.spliced⟩ tr e)
  | rule_fails {i p name body q} : rules.lookup name = some body → Yields body p (.failed q) →
      Yields ⟨i, .rule name⟩ p (.failed q)

end

variable {rules : List (String × Matcher)} {tokens : List Token}

/-- **Uniqueness.**  The rules for one shape tell their cases apart by the answers of the parts, and
those are unique by induction. -/
theorem Yields.unique {m : Matcher} {p : Nat} {o o' : Answer} (h : Yields rules tokens m p o)
    (h' : Yields rules tokens m p o') : o = o' := by
  induction h generalizing o' with
  | literal | literal_fails | pattern | pattern_fails | ofKind | ofKind_fails | endOfInput
  | endOfInput_fails =>
      -- the token at the position decides
      cases h' <;> grind
  | sequence_nil | firstOf_nil | nothing => cases h'; rfl
  | _ => cases h' <;> grind

/-! ### Bounds -/

/-- The answer is for a place from `p` on, and not after the end of the tokens unless `p` is. -/
def Answer.Within (p size : Nat) : Answer → Prop
  | .matched _ _ e => p ≤ e ∧ e ≤ max p size
  | .failed q => p ≤ q ∧ q ≤ max p size

/-- **Bounds.** -/
theorem Yields.within {m : Matcher} {p : Nat} {o : Answer} (h : Yields rules tokens m p o) :
    o.Within p tokens.length := by
  induction h with
  | literal ht | pattern ht | ofKind ht =>
      have := (List.getElem?_eq_some_iff.mp ht).1
      exact ⟨Nat.le_succ _, by omega⟩
  | adjacent _ _ ih => exact ih
  | _ => simp only [Answer.Within] at *; omega

theorem Yields.le_stop {m : Matcher} {p e : Nat} {n : Node} {tr : List (Trivia Token)}
    (h : Yields rules tokens m p (.matched n tr e)) : p ≤ e :=
  h.within.1

/-- A match that consumes anything ends within the tokens. -/
theorem Yields.stop_le {m : Matcher} {p e : Nat} {n : Node} {tr : List (Trivia Token)}
    (h : Yields rules tokens m p (.matched n tr e)) (hp : p ≤ tokens.length ∨ e ≠ p) :
    e ≤ tokens.length := by
  have := h.within
  simp only [Answer.Within] at this
  omega

end Packrat
