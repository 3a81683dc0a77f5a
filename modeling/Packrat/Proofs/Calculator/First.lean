import Packrat.Proofs.Calculator.Ebnf

/-!
# Proofs — Calculator — First

What derivations in the calculator grammar look like: one lemma for each rule says what it is made
of.  From these, with which tokens an expression can start (`begins_of_expression`).
-/

namespace Packrat.Calculator

variable {tokens : List Token} {t : Token} {p q e : Nat}

/-! ### Rules -/

/-- Two signs that touch make `**`. -/
structure StarsAt (tokens : List Token) (p : Nat) : Prop where
  first : TextAt tokens p "*"
  touching : Touching tokens (p + 1)
  second : TextAt tokens (p + 1) "*"

theorem derives_program (h : Derives ebnf tokens (.rule "program") p e) :
    Derives ebnf tokens (.many item) p e ∧ tokens.length ≤ e := by
  have h := (derives_rule_iff rfl).mp h
  simp only [derives_cat_iff, derives_atEnd_iff] at h
  obtain ⟨q, hitems, rfl, hle⟩ := h
  exact ⟨hitems, hle⟩

theorem derives_item (h : Derives ebnf tokens item p e) :
    (e = p + 1 ∧ ∃ t, tokens[p]? = some t ∧ t.kind = .comment) ∨
      (TextAt tokens p ";" ∧ Derives ebnf tokens (.many (.text ";")) (p + 1) e) ∨
      Derives ebnf tokens (.rule "statement") p e := by
  simp only [item, Ebnf.alts, derives_alt_iff, derives_dropped_iff, derives_ofKind_iff,
    derives_cat_iff, derives_text_iff] at h
  obtain h | ⟨_, ⟨rfl, hs⟩, h⟩ | h := h
  · exact .inl h
  · exact .inr (.inl ⟨hs, h⟩)
  · exact .inr (.inr h)

theorem derives_statement (h : Derives ebnf tokens (.rule "statement") p e) :
    ∃ q, (Derives ebnf tokens (.rule "assignment") p q ∨
        Derives ebnf tokens (.rule "expression") p q) ∧
      (TextAt tokens q ";" ∧ e = q + 1 ∨ tokens.length ≤ q ∧ e = q) := by
  have h := (derives_rule_iff rfl).mp h
  simp only [derives_cat_iff, derives_alt_iff, derives_text_iff, derives_atEnd_iff] at h
  obtain ⟨q, hbody, ⟨rfl, hs⟩ | ⟨rfl, hle⟩⟩ := h
  · exact ⟨q, hbody, .inl ⟨hs, rfl⟩⟩
  · exact ⟨e, hbody, .inr ⟨hle, rfl⟩⟩

theorem derives_assignment (h : Derives ebnf tokens (.rule "assignment") p e) :
    ∃ q, TextAt tokens p "let" ∧ Derives ebnf tokens (.rule "name") (p + 1) q ∧
      TextAt tokens q "=" ∧ Derives ebnf tokens (.rule "expression") (q + 1) e := by
  have h := (derives_rule_iff rfl).mp h
  simp only [Ebnf.cats, derives_cat_iff, derives_text_iff] at h
  obtain ⟨_, ⟨rfl, hlet⟩, q, hname, _, ⟨rfl, hequals⟩, hvalue⟩ := h
  exact ⟨q, hlet, hname, hequals, hvalue⟩

theorem derives_alts_texts {cs : List Char} (hcs : cs ≠ [])
    (h : Derives ebnf tokens (.alts (cs.map fun c => .text c.toString)) p e) :
    e = p + 1 ∧ ∃ c ∈ cs, TextAt tokens p c.toString := by
  induction cs with
  | nil => exact absurd rfl hcs
  | cons c cs ih =>
      cases cs with
      | nil =>
          obtain ⟨rfl, hc⟩ := derives_text_iff.mp h
          exact ⟨rfl, c, List.mem_cons_self, hc⟩
      | cons c' cs =>
          rcases derives_alt_iff.mp h with h | h
          · obtain ⟨rfl, hc⟩ := derives_text_iff.mp h
            exact ⟨rfl, c, List.mem_cons_self, hc⟩
          · obtain ⟨he, c, hc, ht⟩ := ih (List.cons_ne_nil _ _) h
            exact ⟨he, c, List.mem_cons_of_mem _ hc, ht⟩

theorem derives_link {operand : String} {operators : List Char} (hne : operators ≠ [])
    (h : Derives ebnf tokens (link operand operators) p e) :
    (∃ c ∈ operators, TextAt tokens p c.toString) ∧
      Derives ebnf tokens (.rule operand) (p + 1) e := by
  obtain ⟨q, hop, h⟩ := derives_cat_iff.mp h
  obtain ⟨rfl, hc⟩ := derives_alts_texts hne hop
  exact ⟨hc, h⟩

theorem derives_power (h : Derives ebnf tokens (.rule "power") p e) :
    Derives ebnf tokens (.rule "unary") p e ∨
      ∃ q, Derives ebnf tokens (.rule "unary") p q ∧ StarsAt tokens q ∧
        Derives ebnf tokens (.rule "power") (q + 2) e := by
  have h := (derives_rule_iff rfl).mp h
  simp only [derives_cat_iff, derives_opt_iff, derives_merged_iff, derives_adjacent_iff,
    derives_text_iff] at h
  obtain ⟨q, hunary, rfl | ⟨_, ⟨_, ⟨rfl, hfirst⟩, htouching, rfl, hsecond⟩, hpower⟩⟩ := h
  · exact .inl hunary
  · exact .inr ⟨q, hunary, ⟨hfirst, htouching, hsecond⟩, hpower⟩

theorem derives_unary (h : Derives ebnf tokens (.rule "unary") p e) :
    Derives ebnf tokens (.rule "primary") p e ∨
      TextAt tokens p "-" ∧ Derives ebnf tokens (.rule "primary") (p + 1) e := by
  have h := (derives_rule_iff rfl).mp h
  simp only [derives_cat_iff, derives_opt_iff, derives_text_iff] at h
  obtain ⟨_, rfl | ⟨rfl, hminus⟩, hprimary⟩ := h
  · exact .inl hprimary
  · exact .inr ⟨hminus, hprimary⟩

theorem derives_primary (h : Derives ebnf tokens (.rule "primary") p e) :
    Derives ebnf tokens (.rule "number") p e ∨ Derives ebnf tokens (.rule "call") p e ∨
      Derives ebnf tokens (.rule "name") p e ∨
      ∃ q, TextAt tokens p "(" ∧ Derives ebnf tokens (.rule "expression") (p + 1) q ∧
        TextAt tokens q ")" ∧ e = q + 1 := by
  have h := (derives_rule_iff rfl).mp h
  simp only [Ebnf.alts, Ebnf.cats, derives_alt_iff, derives_cat_iff, derives_text_iff] at h
  obtain h | h | h | ⟨_, ⟨rfl, hopen⟩, q, hinner, rfl, hclose⟩ := h
  · exact .inl h
  · exact .inr (.inl h)
  · exact .inr (.inr (.inl h))
  · exact .inr (.inr (.inr ⟨q, hopen, hinner, hclose, rfl⟩))

theorem derives_call (h : Derives ebnf tokens (.rule "call") p e) :
    ∃ q r, Derives ebnf tokens (.rule "name") p q ∧ Touching tokens q ∧ TextAt tokens q "(" ∧
      Derives ebnf tokens (.rule "arguments") (q + 1) r ∧ TextAt tokens r ")" ∧ e = r + 1 := by
  have h := (derives_rule_iff rfl).mp h
  simp only [Ebnf.cats, derives_cat_iff, derives_adjacent_iff, derives_text_iff] at h
  obtain ⟨q, hname, _, ⟨htouching, rfl, hopen⟩, r, harguments, rfl, hclose⟩ := h
  exact ⟨q, r, hname, htouching, hopen, harguments, hclose, rfl⟩

theorem derives_arguments (h : Derives ebnf tokens (.rule "arguments") p e) :
    (∃ q, Derives ebnf tokens (.rule "expression") p q ∧
      Derives ebnf tokens (.many more) q e) ∨ e = p := by
  have h := (derives_rule_iff rfl).mp h
  simpa only [derives_alt_iff, derives_cat_iff, derives_nothing_iff] using h

theorem derives_more (h : Derives ebnf tokens more p e) :
    TextAt tokens p "," ∧ Derives ebnf tokens (.rule "expression") (p + 1) e := by
  simp only [more, derives_cat_iff, derives_text_iff] at h
  obtain ⟨_, ⟨rfl, hcomma⟩, h⟩ := h
  exact ⟨hcomma, h⟩

theorem derives_name (h : Derives ebnf tokens (.rule "name") p e) :
    e = p + 1 ∧ ∃ t, tokens[p]? = some t ∧ t.kind = .identifier ∧ t.text ∉ keywords := by
  have h := (derives_rule_iff rfl).mp h
  simp only [derives_cat_iff, derives_butNot_iff, derives_ofKind_iff] at h
  obtain ⟨_, ⟨rfl, hn⟩, rfl, t, ht, hk⟩ := h
  exact ⟨rfl, t, ht, hk, hn t ht⟩

/-! ### Tokens of the lexer -/

/-- The texts and kinds of the tokens are such as the lexer gives. -/
def Lexed (tokens : List Token) : Prop :=
  ∀ t ∈ tokens, Lexeme t.kind t.text.toList

theorem Lexed.at (h : Lexed tokens) (ht : tokens[p]? = some t) : Lexeme t.kind t.text.toList :=
  h t (List.mem_of_getElem? ht)

/-- All numbers are of the same kind, decimal fractions or not. -/
theorem derives_number (hl : Lexed tokens) (h : Derives ebnf tokens (.rule "number") p e) :
    e = p + 1 ∧ ∃ t, tokens[p]? = some t ∧ t.kind = number := by
  have h := (derives_rule_iff rfl).mp h
  simp only [derives_alt_iff, derives_matching_iff, derives_ofKind_iff] at h
  obtain ⟨rfl, t, ht, hdecimal⟩ | ⟨rfl, t, ht, hk⟩ := h
  · exact ⟨rfl, t, ht, kind_of_isDecimal (hl.at ht) hdecimal⟩
  · exact ⟨rfl, t, ht, hk⟩

/-- An expression can start with the token. -/
inductive Starts (t : Token) : Prop where
  | number : t.kind = number → Starts t
  | name : t.kind = .identifier → t.text ∉ keywords → Starts t
  | opening : t.text = "(" → Starts t
  | minus : t.text = "-" → Starts t

/-- With these no expression starts. -/
def others : List String :=
  [")", ",", ";", "=", "+", "*", "/", "%", "let"]

theorem Starts.not_mem_others (h : Starts t) (hl : Lexeme t.kind t.text.toList) :
    t.text ∉ others := by
  intro ht
  have hsplit : ∀ s ∈ others, s ∈ punctuation ∨ s = "let" := by decide
  cases h with
  | number hk =>
      rcases hsplit _ ht with hs | hs
      · exact absurd (hk.symm.trans (kind_of_mem_punctuation hl hs)) (by decide)
      · exact absurd (hk.symm.trans (kind_of_let hl hs)) (by decide)
  | name hk hn =>
      rcases hsplit _ ht with hs | hs
      · exact absurd (hk.symm.trans (kind_of_mem_punctuation hl hs)) (by decide)
      · exact hn (by simp [hs, keywords])
  | opening hs | minus hs => simp [hs, others] at ht

theorem Starts.kind_ne_comment (h : Starts t) (hl : Lexeme t.kind t.text.toList) :
    t.kind ≠ .comment := by
  intro hc
  cases h with
  | number hk | name hk => exact absurd (hc.symm.trans hk) (by decide)
  | opening hs | minus hs =>
      have hp := kind_of_mem_punctuation hl (by simp [hs, punctuation])
      exact absurd (hc.symm.trans hp) (by decide)

/-! ### Starts -/

/-- From the first position to the second there are tokens, and an expression can start with the
first of them. -/
structure Begins (tokens : List Token) (p e : Nat) : Prop where
  starts : ∃ t, tokens[p]? = some t ∧ Starts t
  lt : p < e

variable (hl : Lexed tokens)

theorem begins_of_name (h : Derives ebnf tokens (.rule "name") p e) : Begins tokens p e := by
  obtain ⟨rfl, t, ht, hk, hn⟩ := derives_name h
  exact ⟨⟨t, ht, .name hk hn⟩, Nat.lt_succ_self p⟩

include hl

theorem begins_of_number (h : Derives ebnf tokens (.rule "number") p e) : Begins tokens p e := by
  obtain ⟨rfl, t, ht, hk⟩ := derives_number hl h
  exact ⟨⟨t, ht, .number hk⟩, Nat.lt_succ_self p⟩

theorem begins_of_primary (h : Derives ebnf tokens (.rule "primary") p e) : Begins tokens p e := by
  obtain h | h | h | ⟨q, ⟨t, ht, hs⟩, hinner, -, rfl⟩ := derives_primary h
  · exact begins_of_number hl h
  · obtain ⟨q, r, hname, -, -, harguments, -, rfl⟩ := derives_call h
    have hb := begins_of_name hname
    have hle := harguments.le
    exact ⟨hb.starts, by have := hb.lt; omega⟩
  · exact begins_of_name h
  · have hle := hinner.le
    exact ⟨⟨t, ht, .opening hs⟩, by omega⟩

/-- A sign in front belongs to what is around. -/
theorem noneOf_minus_of_primary (h : Derives ebnf tokens (.rule "primary") p e) :
    NoneOf tokens p ["-"] := by
  intro t ht hs
  have hs := List.eq_of_mem_singleton hs
  have hk := kind_of_mem_punctuation (hl.at ht) (by simp [hs, punctuation])
  have hname : ∀ {e}, ¬ Derives ebnf tokens (.rule "name") p e := by
    intro e h
    obtain ⟨-, t', ht', hk', -⟩ := derives_name h
    cases ht.symm.trans ht'
    exact absurd (hk'.symm.trans hk) (by decide)
  obtain h | h | h | ⟨q, ⟨t', ht', hs'⟩, -⟩ := derives_primary h
  · obtain ⟨-, t', ht', hk'⟩ := derives_number hl h
    cases ht.symm.trans ht'
    exact absurd (hk'.symm.trans hk) (by decide)
  · obtain ⟨_, _, h, -⟩ := derives_call h
    exact hname h
  · exact hname h
  · cases ht.symm.trans ht'
    exact absurd (hs'.symm.trans hs) (by decide)

theorem begins_of_unary (h : Derives ebnf tokens (.rule "unary") p e) : Begins tokens p e := by
  obtain h | ⟨⟨t, ht, hs⟩, h⟩ := derives_unary h
  · exact begins_of_primary hl h
  · exact ⟨⟨t, ht, .minus hs⟩, h.le⟩

theorem begins_of_power (h : Derives ebnf tokens (.rule "power") p e) : Begins tokens p e := by
  obtain h | ⟨q, h, -, hpower⟩ := derives_power h
  · exact begins_of_unary hl h
  · have hb := begins_of_unary hl h
    have hle := hpower.le
    exact ⟨hb.starts, by have := hb.lt; omega⟩

omit hl in
theorem begins_of_chain {operand : String} {operators : List Char}
    (hoperand : ∀ {p e}, Derives ebnf tokens (.rule operand) p e → Begins tokens p e)
    (h : Derives ebnf tokens (chain operand operators) p e) : Begins tokens p e := by
  obtain ⟨q, h, hlinks⟩ := derives_cat_iff.mp h
  have hb := hoperand h
  exact ⟨hb.starts, Nat.lt_of_lt_of_le hb.lt hlinks.le⟩

theorem begins_of_term (h : Derives ebnf tokens (.rule "term") p e) : Begins tokens p e :=
  begins_of_chain (begins_of_power hl) ((derives_rule_iff rfl).mp h)

theorem begins_of_expression (h : Derives ebnf tokens (.rule "expression") p e) :
    Begins tokens p e :=
  begins_of_chain (begins_of_term hl) ((derives_rule_iff rfl).mp h)

end Packrat.Calculator
