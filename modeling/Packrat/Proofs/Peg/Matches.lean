import Packrat.Proofs.Peg.Yields

/-!
# Proofs — Peg — Matches

Where matchers match, without what they make of the tokens.  `Matches rules tokens m p e` says that
`m`, tried at `p`, matches up to `e`, and `Fails rules tokens m p` that it fails there.  For each
shape there is a lemma for every way to match or to fail.
-/

namespace Packrat

section

variable (rules : List (String × Matcher)) (tokens : List Token)

/-- Tried at the first position, the matcher matches up to the second. -/
def Matches (m : Matcher) (p e : Nat) : Prop :=
  ∃ n tr, Yields rules tokens m p (.matched n tr e)

/-- Tried at the position, the matcher fails. -/
def Fails (m : Matcher) (p : Nat) : Prop :=
  ∃ q, Yields rules tokens m p (.failed q)

end

variable {rules : List (String × Matcher)} {tokens : List Token} {m : Matcher} {ms : List Matcher}
  {i p q e : Nat} {t : Token} {k : TokenKind} {name : String}

namespace Matches

theorem literal (ht : tokens[p]? = some t) : Matches rules tokens ⟨i, .literal t.text⟩ p (p + 1) :=
  ⟨_, _, .literal ht rfl⟩

theorem pattern {r : Pattern} (ht : tokens[p]? = some t) (ha : r.accepts t.text = true) :
    Matches rules tokens ⟨i, .pattern r⟩ p (p + 1) :=
  ⟨_, _, .pattern ht ha⟩

theorem ofKind (ht : tokens[p]? = some t) (hk : t.kind = k) :
    Matches rules tokens ⟨i, .ofKind k⟩ p (p + 1) :=
  ⟨_, _, .ofKind ht hk⟩

theorem sequence_nil : Matches rules tokens ⟨i, .sequence []⟩ p p :=
  ⟨_, _, .sequence_nil⟩

theorem sequence_cons (h : Matches rules tokens m p q)
    (h' : Matches rules tokens ⟨i, .sequence ms⟩ q e) :
    Matches rules tokens ⟨i, .sequence (m :: ms)⟩ p e := by
  obtain ⟨_, _, h⟩ := h
  obtain ⟨_, _, h'⟩ := h'
  exact ⟨_, _, .sequence_cons h h'⟩

theorem firstOf_head (h : Matches rules tokens m p e) :
    Matches rules tokens ⟨i, .firstOf (m :: ms)⟩ p e := by
  obtain ⟨_, _, h⟩ := h
  exact ⟨_, _, .firstOf_head h⟩

theorem firstOf_tail (h : Fails rules tokens m p)
    (h' : Matches rules tokens ⟨i, .firstOf ms⟩ p e) :
    Matches rules tokens ⟨i, .firstOf (m :: ms)⟩ p e := by
  obtain ⟨_, h⟩ := h
  obtain ⟨_, _, h'⟩ := h'
  exact ⟨_, _, .firstOf_tail h h'⟩

theorem optional (h : Matches rules tokens m p e) : Matches rules tokens ⟨i, .optional m⟩ p e := by
  obtain ⟨_, _, h⟩ := h
  exact ⟨_, _, .optional h⟩

theorem optional_none (h : Fails rules tokens m p) :
    Matches rules tokens ⟨i, .optional m⟩ p p := by
  obtain ⟨_, h⟩ := h
  exact ⟨_, _, .optional_none h⟩

theorem zeroOrMore_none (h : Fails rules tokens m p) :
    Matches rules tokens ⟨i, .zeroOrMore m⟩ p p := by
  obtain ⟨_, h⟩ := h
  exact ⟨_, _, .zeroOrMore_none h⟩

theorem zeroOrMore_more (h : Matches rules tokens m p q) (hq : p < q)
    (h' : Matches rules tokens ⟨i, .zeroOrMore m⟩ q e) :
    Matches rules tokens ⟨i, .zeroOrMore m⟩ p e := by
  obtain ⟨_, _, h⟩ := h
  obtain ⟨_, _, h'⟩ := h'
  exact ⟨_, _, .zeroOrMore_more h (Nat.ne_of_gt hq) h'⟩

theorem oneOrMore (h : Matches rules tokens m p q) (hq : p < q)
    (h' : Matches rules tokens ⟨i, .zeroOrMore m⟩ q e) :
    Matches rules tokens ⟨i, .oneOrMore m⟩ p e := by
  obtain ⟨_, _, h⟩ := h
  obtain ⟨_, _, h'⟩ := h'
  exact ⟨_, _, .oneOrMore_more h (Nat.ne_of_gt hq) h'⟩

theorem next (h : Matches rules tokens m p e) : Matches rules tokens ⟨i, .next m⟩ p p := by
  obtain ⟨_, _, h⟩ := h
  exact ⟨_, _, .next h⟩

theorem nextNot (h : Fails rules tokens m p) : Matches rules tokens ⟨i, .nextNot m⟩ p p := by
  obtain ⟨_, h⟩ := h
  exact ⟨_, _, .nextNot h⟩

theorem endOfInput (h : tokens.length ≤ p) : Matches rules tokens ⟨i, .endOfInput⟩ p p :=
  ⟨_, _, .endOfInput h⟩

theorem nothing : Matches rules tokens ⟨i, .nothing⟩ p p :=
  ⟨_, _, .nothing⟩

theorem token (h : Matches rules tokens m p e) : Matches rules tokens ⟨i, .token k m⟩ p e := by
  obtain ⟨_, _, h⟩ := h
  exact ⟨_, _, .token h⟩

theorem trivia {k : TriviaKind} (h : Matches rules tokens m p e) :
    Matches rules tokens ⟨i, .trivia k m⟩ p e := by
  obtain ⟨_, _, h⟩ := h
  exact ⟨_, _, .trivia h⟩

theorem adjacent (ht : Touching tokens p) (h : Matches rules tokens m p e) :
    Matches rules tokens ⟨i, .adjacent m⟩ p e := by
  obtain ⟨_, _, h⟩ := h
  exact ⟨_, _, .adjacent ht h⟩

theorem rule (hl : rules.lookup name = some m) (h : Matches rules tokens m p e) :
    Matches rules tokens ⟨i, .rule name⟩ p e := by
  obtain ⟨_, _, h⟩ := h
  exact ⟨_, _, .rule hl h⟩

end Matches

namespace Fails

theorem literal {s : String} (h : ∀ t, tokens[p]? = some t → t.text ≠ s) :
    Fails rules tokens ⟨i, .literal s⟩ p :=
  ⟨_, .literal_fails h⟩

theorem pattern {r : Pattern} (h : ∀ t, tokens[p]? = some t → r.accepts t.text ≠ true) :
    Fails rules tokens ⟨i, .pattern r⟩ p :=
  ⟨_, .pattern_fails h⟩

theorem ofKind (h : ∀ t, tokens[p]? = some t → t.kind ≠ k) : Fails rules tokens ⟨i, .ofKind k⟩ p :=
  ⟨_, .ofKind_fails h⟩

theorem sequence_head (h : Fails rules tokens m p) :
    Fails rules tokens ⟨i, .sequence (m :: ms)⟩ p := by
  obtain ⟨_, h⟩ := h
  exact ⟨_, .sequence_head_fails h⟩

theorem sequence_tail (h : Matches rules tokens m p q)
    (h' : Fails rules tokens ⟨i, .sequence ms⟩ q) :
    Fails rules tokens ⟨i, .sequence (m :: ms)⟩ p := by
  obtain ⟨_, _, h⟩ := h
  obtain ⟨_, h'⟩ := h'
  exact ⟨_, .sequence_tail_fails h h'⟩

/-- A choice fails where all its alternatives do. -/
theorem firstOf (h : ∀ m ∈ ms, Fails rules tokens m p) : Fails rules tokens ⟨i, .firstOf ms⟩ p := by
  induction ms with
  | nil => exact ⟨_, .firstOf_nil⟩
  | cons m ms ih =>
      obtain ⟨hm, hms⟩ := List.forall_mem_cons.mp h
      obtain ⟨_, hm⟩ := hm
      obtain ⟨_, hms⟩ := ih hms
      exact ⟨_, .firstOf_fails hm hms⟩

theorem oneOrMore (h : Fails rules tokens m p) : Fails rules tokens ⟨i, .oneOrMore m⟩ p := by
  obtain ⟨_, h⟩ := h
  exact ⟨_, .oneOrMore_fails h⟩

theorem nextNot (h : Matches rules tokens m p e) : Fails rules tokens ⟨i, .nextNot m⟩ p := by
  obtain ⟨_, _, h⟩ := h
  exact ⟨_, .nextNot_fails h⟩

theorem token (h : Fails rules tokens m p) : Fails rules tokens ⟨i, .token k m⟩ p := by
  obtain ⟨_, h⟩ := h
  exact ⟨_, .token_fails h⟩

theorem trivia {k : TriviaKind} (h : Fails rules tokens m p) :
    Fails rules tokens ⟨i, .trivia k m⟩ p := by
  obtain ⟨_, h⟩ := h
  exact ⟨_, .trivia_fails h⟩

theorem adjacent (h : Fails rules tokens m p) : Fails rules tokens ⟨i, .adjacent m⟩ p := by
  obtain ⟨_, h⟩ := h
  by_cases ht : Touching tokens p
  · exact ⟨_, .adjacent ht h⟩
  · exact ⟨_, .adjacent_fails ht⟩

theorem not_adjacent (h : ¬ Touching tokens p) : Fails rules tokens ⟨i, .adjacent m⟩ p :=
  ⟨_, .adjacent_fails h⟩

theorem rule (hl : rules.lookup name = some m) (h : Fails rules tokens m p) :
    Fails rules tokens ⟨i, .rule name⟩ p := by
  obtain ⟨_, h⟩ := h
  exact ⟨_, .rule_fails hl h⟩

end Fails

end Packrat
