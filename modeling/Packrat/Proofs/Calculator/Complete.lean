import Packrat.Proofs.Calculator.First
import Packrat.Proofs.Peg.Matches

/-!
# Proofs — Calculator — Complete

What can be derived in the documented grammar is matched, although the matchers try alternatives in
order and take what they can get.  This holds where what follows cannot belong to what is matched: a
rule is `Complete` for some condition on what follows.  For an operand that is the operators and a
parenthesis, which would make a name into a call.  Among alternatives the first token decides.

**Completeness** (`complete_expression_and_power`), by induction on the number of tokens: an
expression in parentheses or among arguments has fewer of them than what it is in, and so has an
exponent.
-/

namespace Packrat

section

variable {rules : List (String × Matcher)} {tokens : List Token} {texts : List String} {s : String}
  {i p : Nat}

theorem TextAt.matches (h : TextAt tokens p s) :
    Matches rules tokens ⟨i, .literal s⟩ p (p + 1) := by
  obtain ⟨t, ht, rfl⟩ := h
  exact .literal ht

theorem TextAt.noneOf (h : TextAt tokens p s) (hs : s ∉ texts) : NoneOf tokens p texts := by
  obtain ⟨t, ht, rfl⟩ := h
  exact forall_token_at ht hs

theorem NoneOf.fails (h : NoneOf tokens p texts) (hs : s ∈ texts) :
    Fails rules tokens ⟨i, .literal s⟩ p :=
  .literal fun t ht he => h t ht (he ▸ hs)

theorem NoneOf.mono {texts' : List String} (h : NoneOf tokens p texts) (hs : texts' ⊆ texts) :
    NoneOf tokens p texts' :=
  fun t ht hm => h t ht (hs hm)

/-- After the last token there is nothing. -/
theorem NoneOf.of_length_le (h : tokens.length ≤ p) : NoneOf tokens p texts := by
  intro t ht
  rw [List.getElem?_eq_none h] at ht
  cases ht

end

namespace Calculator

variable {tokens : List Token} {t : Token} {i p q e ℓ : Nat}

/-! ### Numbers and names -/

theorem matches_number (ht : tokens[p]? = some t) (hk : t.kind = number) :
    Matches rules tokens ⟨i, .rule "number"⟩ p (p + 1) := by
  refine .rule rfl ?_
  by_cases ha : decimalPattern.accepts t.text = true
  · exact .firstOf_head (.pattern ht ha)
  · exact .firstOf_tail (.pattern (forall_token_at ht ha)) (.firstOf_head (.ofKind ht hk))

theorem fails_number (hl : Lexed tokens) (h : ∀ t, tokens[p]? = some t → t.kind ≠ number) :
    Fails rules tokens ⟨i, .rule "number"⟩ p := by
  refine .rule rfl (.firstOf (List.forall_mem_cons.mpr ⟨.pattern fun t ht ha => h t ht ?_,
    List.forall_mem_singleton.mpr (.ofKind h)⟩))
  exact kind_of_isDecimal (hl.at ht) (isDecimal_of_accepts ha)

theorem matches_name (ht : tokens[p]? = some t) (hk : t.kind = .identifier)
    (hn : t.text ∉ keywords) : Matches rules tokens ⟨i, .rule "name"⟩ p (p + 1) := by
  have hword : NoneOf tokens p keywords := TextAt.noneOf ⟨t, ht, rfl⟩ hn
  exact .rule rfl (.sequence_cons (.nextNot (hword.fails List.mem_cons_self))
    (.sequence_cons (.ofKind ht hk) .sequence_nil))

theorem fails_name (h : ∀ t, tokens[p]? = some t → t.kind = .identifier → t.text ∈ keywords) :
    Fails rules tokens ⟨i, .rule "name"⟩ p := by
  refine .rule rfl ?_
  by_cases hword : TextAt tokens p "let"
  · exact .sequence_head (.nextNot hword.matches)
  · refine .sequence_tail (.nextNot (.literal fun t ht hs => hword ⟨t, ht, hs⟩)) (.sequence_head ?_)
    exact .ofKind fun t ht hk => hword ⟨t, ht, List.eq_of_mem_singleton (h t ht hk)⟩

/-- A word is no call if no parenthesis follows. -/
theorem fails_call (ht : tokens[p]? = some t) (hk : t.kind = .identifier) (hn : t.text ∉ keywords)
    (h : NoneOf tokens (p + 1) ["("]) : Fails rules tokens ⟨i, .rule "call"⟩ p :=
  .rule rfl (.sequence_tail (matches_name ht hk hn)
    (.sequence_head (.adjacent (h.fails List.mem_cons_self))))

theorem fails_call_of_fails_name (h : ∀ i, Fails rules tokens ⟨i, .rule "name"⟩ p) :
    Fails rules tokens ⟨i, .rule "call"⟩ p :=
  .rule rfl (.sequence_head (h _))

/-! ### Where nothing starts -/

/-- No expression starts at the position. -/
def Idle (tokens : List Token) (p : Nat) : Prop :=
  ∀ t, tokens[p]? = some t → ¬ Starts t

section

variable (hl : Lexed tokens) (h : Idle tokens p)

include hl h

theorem fails_primary : Fails rules tokens ⟨i, .rule "primary"⟩ p := by
  have hname : ∀ i, Fails rules tokens ⟨i, .rule "name"⟩ p := fun i =>
    fails_name fun t ht hk => by_contra fun hn => h t ht (.name hk hn)
  refine .rule rfl (.firstOf ?_)
  simp only [List.forall_mem_cons]
  refine ⟨fails_number hl fun t ht hk => h t ht (.number hk), fails_call_of_fails_name hname,
    hname _, .sequence_head (.literal fun t ht hs => h t ht (.opening hs)), List.forall_mem_nil _⟩

theorem fails_unary : Fails rules tokens ⟨i, .rule "unary"⟩ p :=
  .rule rfl (.sequence_tail (.optional_none (.literal fun t ht hs => h t ht (.minus hs)))
    (.sequence_head (fails_primary hl h)))

theorem fails_power : Fails rules tokens ⟨i, .rule "power"⟩ p :=
  .rule rfl (.sequence_head (fails_unary hl h))

theorem fails_term : Fails rules tokens ⟨i, .rule "term"⟩ p :=
  .rule rfl (.sequence_head (fails_power hl h))

theorem fails_expression : Fails rules tokens ⟨i, .rule "expression"⟩ p :=
  .rule rfl (.sequence_head (fails_term hl h))

end

/-! ### Completeness -/

section

variable (tokens)

/-- What can be derived from the rule is matched, if it is no longer than `ℓ` tokens and followed by
what `Follow` says. -/
def Complete (name : String) (Follow : Nat → Prop) (ℓ : Nat) : Prop :=
  ∀ ⦃p e⦄, e ≤ p + ℓ → Derives ebnf tokens (.rule name) p e → Follow e →
    ∀ i, Matches rules tokens ⟨i, .rule name⟩ p e

/-- After a power: no parenthesis, which would make a name into a call, and not `**`. -/
structure FollowPower (q : Nat) : Prop where
  noneOf : NoneOf tokens q ["("]
  not_starsAt : ¬ StarsAt tokens q

def FollowTerm (q : Nat) : Prop :=
  NoneOf tokens q ["(", "*", "/", "%"]

def FollowExpression (q : Nat) : Prop :=
  NoneOf tokens q ["(", "*", "/", "%", "+", "-"]

/-- After arguments there is a closing parenthesis, or nothing. -/
def FollowArguments (q : Nat) : Prop :=
  ∀ t, tokens[q]? = some t → t.text = ")"

end

/-! ### Repetitions -/

/-- A repetition is matched if each of its rounds is, and if it cannot go on after them.  What can
follow a round is where the next one starts, or the end. -/
theorem matches_many {m : Matcher} {x : Ebnf} {Follow : Nat → Prop} (hend : Fails rules tokens m e)
    (hfollow : Follow e) (hround : ∀ q r, p ≤ q → r ≤ e → Derives ebnf tokens x q r → Follow r →
      Matches rules tokens m q r ∧ q < r ∧ Follow q)
    (hd : Derives ebnf tokens (.many x) q e) (hp : p ≤ q) :
    Matches rules tokens ⟨i, .zeroOrMore m⟩ q e ∧ Follow q := by
  revert hp
  refine hd.many_induction (motive := fun q => p ≤ q →
    Matches rules tokens ⟨i, .zeroOrMore m⟩ q e ∧ Follow q) ?none ?more
  case none => exact fun _ => ⟨.zeroOrMore_none hend, hfollow⟩
  case more =>
    intro q r hx hmore ih hp
    obtain ⟨hrest, hr⟩ := ih (Nat.le_trans hp hx.le)
    obtain ⟨hm, hlt, hq⟩ := hround q r hp hmore.le hx hr
    exact ⟨.zeroOrMore_more hm hlt hrest, hq⟩

theorem matches_literals {cs : List Char} {c : Char} (hc : c ∈ cs)
    (h : TextAt tokens p c.toString) (n : Nat) :
    Matches rules tokens ⟨i, .firstOf (literals n cs)⟩ p (p + 1) := by
  induction cs generalizing n with
  | nil => cases hc
  | cons c' cs ih =>
      by_cases hc' : TextAt tokens p c'.toString
      · exact .firstOf_head hc'.matches
      · have hne : c ≠ c' := fun he => hc' (he ▸ h)
        refine .firstOf_tail (.literal fun t ht hs => hc' ⟨t, ht, hs⟩) (ih ?_ _)
        exact List.mem_of_ne_of_mem hne hc

theorem fails_literals {cs : List Char} (h : NoneOf tokens p (cs.map Char.toString)) (n : Nat) :
    Fails rules tokens ⟨i, .firstOf (literals n cs)⟩ p := by
  refine .firstOf fun m hm => ?_
  induction cs generalizing n with
  | nil => cases hm
  | cons c cs ih =>
      rcases List.mem_cons.mp hm with rfl | hm
      · exact h.fails List.mem_cons_self
      · exact ih (h.mono (List.subset_cons_self _ _)) _ hm

/-- Operands with operators between them are matched if the operands are. -/
theorem complete_chain {name operand : String} {operators : List Char} {n : Nat}
    {Follow Follow' : Nat → Prop}
    (hrule : rules.lookup name = some (chainRule n operand operators))
    (htable : ebnf.lookup name = some (chain operand operators)) (hne : operators ≠ [])
    (hbegins : ∀ {p e}, Derives ebnf tokens (.rule operand) p e → Begins tokens p e)
    (hfollow : ∀ q, Follow q → Follow' q ∧ NoneOf tokens q (operators.map Char.toString))
    (hoperator : ∀ q r, ∀ c ∈ operators, TextAt tokens q c.toString → Begins tokens (q + 1) r →
      Follow' q)
    (h : Complete tokens operand Follow' ℓ) : Complete tokens name Follow ℓ := by
  intro p e hle hd hf i
  obtain ⟨q, hoperand, hlinks⟩ := derives_cat_iff.mp ((derives_rule_iff htable).mp hd)
  obtain ⟨hf, hnone⟩ := hfollow e hf
  have hend : Fails rules tokens (linkRule n operand operators) e :=
    .sequence_head (fails_literals hnone n)
  have hround : ∀ r r', p ≤ r → r' ≤ e → Derives ebnf tokens (link operand operators) r r' →
      Follow' r' →
      Matches rules tokens (linkRule n operand operators) r r' ∧ r < r' ∧ Follow' r := by
    intro r r' hr hr' hlink hf'
    obtain ⟨⟨c, hc, ht⟩, hoperand⟩ := derives_link hne hlink
    have hb := hbegins hoperand
    have hm := h (by omega) hoperand hf'
    exact ⟨.sequence_cons (matches_literals hc ht n) (.sequence_cons (hm _) .sequence_nil),
      Nat.lt_of_succ_lt hb.lt, hoperator r r' c hc ht hb⟩
  obtain ⟨hloop, hf'⟩ := matches_many hend hf hround hlinks hoperand.le
  have hq : q ≤ p + ℓ := Nat.le_trans hlinks.le hle
  exact .rule hrule (.sequence_cons (h hq hoperand hf' _) (.sequence_cons hloop .sequence_nil))

/-! ### Rules -/

section

variable (hl : Lexed tokens)

include hl

theorem complete_arguments (h : Complete tokens "expression" (FollowExpression tokens) ℓ) :
    Complete tokens "arguments" (FollowArguments tokens) ℓ := by
  intro p e hle hd hf i
  have hnone : NoneOf tokens e ["(", "*", "/", "%", "+", "-", ","] := by
    intro t ht hs
    rw [hf t ht] at hs
    revert hs
    decide
  obtain ⟨q, hexpression, hmore⟩ | rfl := derives_arguments hd
  · have hround : ∀ n r r', p ≤ r → r' ≤ e → Derives ebnf tokens more r r' →
        FollowExpression tokens r' →
        Matches rules tokens (moreRule n) r r' ∧ r < r' ∧ FollowExpression tokens r := by
      intro n r r' hr hr' hd hf'
      obtain ⟨hcomma, hexpression⟩ := derives_more hd
      have hm := h (by omega) hexpression hf'
      exact ⟨.sequence_cons hcomma.matches (.sequence_cons (hm _) .sequence_nil),
        hexpression.le, hcomma.noneOf (by decide)⟩
    have hend : ∀ n, Fails rules tokens (moreRule n) e := fun n =>
      .sequence_head (hnone.fails (by decide))
    have hloop : ∀ n i, Matches rules tokens ⟨i, .zeroOrMore (moreRule n)⟩ q e ∧
        FollowExpression tokens q := fun n i =>
      matches_many (hend n) (hnone.mono (by decide)) (hround n) hmore hexpression.le
    have hq : q ≤ p + ℓ := Nat.le_trans hmore.le hle
    exact .rule rfl (.firstOf_head (.sequence_cons (h hq hexpression (hloop 0 0).2 _)
      (.sequence_cons (hloop _ _).1 .sequence_nil)))
  · -- nothing can start here, so nothing is what is left
    have hidle : Idle tokens e := by
      intro t ht hs
      have hclose := hf t ht
      exact hs.not_mem_others (hl.at ht) (by simp [hclose, others])
    exact .rule rfl (.firstOf_tail (.sequence_head (fails_expression hl hidle))
      (.firstOf_head .nothing))

omit hl in
theorem complete_call (h : Complete tokens "arguments" (FollowArguments tokens) ℓ) :
    Complete tokens "call" (fun _ => True) (ℓ + 1) := by
  intro p e hle hd _ i
  obtain ⟨q, r, hname, htouching, hopen, harguments, hclose, rfl⟩ := derives_call hd
  obtain ⟨rfl, t, ht, hk, hn⟩ := derives_name hname
  have hfollow : FollowArguments tokens r := by
    obtain ⟨t, ht, hs⟩ := hclose
    exact forall_token_at ht hs
  exact .rule rfl (.sequence_cons (matches_name ht hk hn)
    (.sequence_cons (.adjacent htouching hopen.matches)
      (.sequence_cons (h (by omega) harguments hfollow _)
        (.sequence_cons hclose.matches .sequence_nil))))

theorem complete_primary (hcall : Complete tokens "call" (fun _ => True) (ℓ + 1))
    (hexpression : Complete tokens "expression" (FollowExpression tokens) ℓ) :
    Complete tokens "primary" (fun q => NoneOf tokens q ["("]) (ℓ + 1) := by
  intro p e hle hd hf i
  -- the kind of the first token decides between the alternatives
  have hnumber : ∀ {t i}, tokens[p]? = some t → t.kind ≠ number →
      Fails rules tokens ⟨i, .rule "number"⟩ p :=
    fun ht hk => fails_number hl (forall_token_at ht hk)
  have hidentifier : TokenKind.identifier ≠ number := by decide
  refine .rule rfl ?_
  obtain h | h | h | ⟨q, hopen, hinner, hclose, rfl⟩ := derives_primary hd
  · obtain ⟨rfl, t, ht, hk⟩ := derives_number hl h
    exact .firstOf_head (matches_number ht hk)
  · obtain ⟨q, r, hname, -⟩ := derives_call h
    obtain ⟨-, t, ht, hk, -⟩ := derives_name hname
    exact .firstOf_tail (hnumber ht (hk ▸ hidentifier)) (.firstOf_head (hcall hle h trivial _))
  · obtain ⟨rfl, t, ht, hk, hn⟩ := derives_name h
    exact .firstOf_tail (hnumber ht (hk ▸ hidentifier))
      (.firstOf_tail (fails_call ht hk hn hf) (.firstOf_head (matches_name ht hk hn)))
  · obtain ⟨t, ht, hs⟩ := hopen
    have hk := kind_of_mem_punctuation (hl.at ht) (by simp [hs, punctuation])
    have hname : ∀ i, Fails rules tokens ⟨i, .rule "name"⟩ p := by
      refine fun i => fails_name (forall_token_at ht fun hk' => ?_)
      exact absurd (hk'.symm.trans hk) (by decide)
    have hm := hexpression (by omega) hinner (hclose.noneOf (by decide))
    have hopen : TextAt tokens p "(" := ⟨t, ht, hs⟩
    exact .firstOf_tail (hnumber ht (hk ▸ by decide))
      (.firstOf_tail (fails_call_of_fails_name hname) (.firstOf_tail (hname _)
        (.firstOf_head (.sequence_cons hopen.matches
          (.sequence_cons (hm _) (.sequence_cons hclose.matches .sequence_nil))))))

theorem complete_unary (h : Complete tokens "primary" (fun q => NoneOf tokens q ["("]) ℓ) :
    Complete tokens "unary" (fun q => NoneOf tokens q ["("]) ℓ := by
  intro p e hle hd hf i
  obtain hd | ⟨hminus, hd⟩ := derives_unary hd
  · have hminus := noneOf_minus_of_primary hl hd
    exact .rule rfl (.sequence_cons (.optional_none (hminus.fails List.mem_cons_self))
      (.sequence_cons (h hle hd hf _) .sequence_nil))
  · exact .rule rfl (.sequence_cons (.optional hminus.matches)
      (.sequence_cons (h (by omega) hd hf _) .sequence_nil))

theorem complete_power (hunary : Complete tokens "unary" (fun q => NoneOf tokens q ["("]) (ℓ + 1))
    (hpower : Complete tokens "power" (FollowPower tokens) ℓ) :
    Complete tokens "power" (FollowPower tokens) (ℓ + 1) := by
  intro p e hle hd hf i
  obtain hd | ⟨q, hd, hstars, hexponent⟩ := derives_power hd
  · refine .rule rfl (.sequence_cons (hunary hle hd hf.noneOf _) (.sequence_cons ?_ .sequence_nil))
    refine .optional_none (.sequence_head (.token ?_))
    by_cases hfirst : TextAt tokens e "*"
    · refine .sequence_tail hfirst.matches (.sequence_head ?_)
      by_cases htouching : Touching tokens (e + 1)
      · refine .adjacent (.literal fun t ht hs => hf.not_starsAt ⟨hfirst, htouching, t, ht, hs⟩)
      · exact .not_adjacent htouching
    · exact .sequence_head (.literal fun t ht hs => hfirst ⟨t, ht, hs⟩)
  · have hle' := hexponent.le
    have hlt := (begins_of_unary hl hd).lt
    have hm := hunary (by omega) hd (hstars.first.noneOf (by decide))
    have hm' := hpower (by omega) hexponent hf
    exact .rule rfl (.sequence_cons (hm _) (.sequence_cons (.optional
      (.sequence_cons (.token (.sequence_cons hstars.first.matches
          (.sequence_cons (.adjacent hstars.touching hstars.second.matches) .sequence_nil)))
        (.sequence_cons (hm' _) .sequence_nil))) .sequence_nil))

theorem complete_term (h : Complete tokens "power" (FollowPower tokens) ℓ) :
    Complete tokens "term" (FollowTerm tokens) ℓ := by
  refine complete_chain rfl rfl (by simp) (begins_of_power hl) (fun q hq => ?follow) ?operator h
  case follow =>
    refine ⟨⟨NoneOf.mono hq (by simp), ?_⟩, NoneOf.mono hq (by decide)⟩
    rintro ⟨⟨t, ht, hs⟩, -, -⟩
    exact hq t ht (by simp [hs])
  case operator =>
    intro q r c hc ht hb
    have hall : ∀ c ∈ ['*', '/', '%'], c.toString ∉ ["("] := by simp
    refine ⟨ht.noneOf (hall c hc), fun hstars => ?_⟩
    -- an operand after the operator does not start with a star
    obtain ⟨t, ht, hs⟩ := hb.starts
    obtain ⟨t', ht', hs'⟩ := hstars.second
    cases ht.symm.trans ht'
    exact hs.not_mem_others (hl.at ht) (by simp [hs', others])

theorem complete_expression (h : Complete tokens "term" (FollowTerm tokens) ℓ) :
    Complete tokens "expression" (FollowExpression tokens) ℓ := by
  refine complete_chain rfl rfl (by simp) (begins_of_term hl) (fun q hq => ?follow) ?operator h
  case follow => exact ⟨NoneOf.mono hq (by simp), NoneOf.mono hq (by decide)⟩
  case operator =>
    intro q r c hc ht _
    have hall : ∀ c ∈ ['+', '-'], c.toString ∉ ["(", "*", "/", "%"] := by simp
    exact ht.noneOf (hall c hc)

/-- All lengths: an expression inside of another has fewer tokens, and so has an exponent. -/
theorem complete_expression_and_power (ℓ : Nat) :
    Complete tokens "expression" (FollowExpression tokens) ℓ ∧
      Complete tokens "power" (FollowPower tokens) ℓ := by
  induction ℓ with
  | zero =>
      -- neither can be derived from no tokens at all
      refine ⟨fun p e hle hd _ i => ?_, fun p e hle hd _ i => ?_⟩
      · exact absurd (begins_of_expression hl hd).lt (Nat.not_lt_of_le hle)
      · exact absurd (begins_of_power hl hd).lt (Nat.not_lt_of_le hle)
  | succ ℓ ih =>
      obtain ⟨hexpression, hpower⟩ := ih
      have hcall := complete_call (complete_arguments hl hexpression)
      have hunary := complete_unary hl (complete_primary hl hcall hexpression)
      have hpower := complete_power hl hunary hpower
      exact ⟨complete_expression hl (complete_term hl hpower), hpower⟩

theorem complete_assignment (ℓ : Nat) :
    Complete tokens "assignment" (FollowExpression tokens) ℓ := by
  intro p e hle hd hf i
  obtain ⟨q, hlet, hname, hequals, hvalue⟩ := derives_assignment hd
  obtain ⟨rfl, t, ht, hk, hn⟩ := derives_name hname
  have hm := (complete_expression_and_power hl ℓ).1 (by omega) hvalue hf
  exact .rule rfl (.sequence_cons hlet.matches (.sequence_cons (matches_name ht hk hn)
    (.sequence_cons hequals.matches (.sequence_cons (hm _) .sequence_nil))))

omit hl in
/-- A statement ends with a semicolon, or with the input. -/
theorem matches_stop {j k l : Nat}
    (h : TextAt tokens q ";" ∧ e = q + 1 ∨ tokens.length ≤ q ∧ e = q) :
    q ≤ e ∧ FollowExpression tokens q ∧ Matches rules tokens
      ⟨i, .firstOf [⟨j, .literal ";"⟩, ⟨k, .next ⟨l, .endOfInput⟩⟩]⟩ q e := by
  obtain ⟨hs, rfl⟩ | ⟨hle, rfl⟩ := h
  · exact ⟨Nat.le_succ q, hs.noneOf (by decide), .firstOf_head hs.matches⟩
  · have hnone : NoneOf tokens e [";"] := .of_length_le hle
    exact ⟨Nat.le_refl e, .of_length_le hle,
      .firstOf_tail (hnone.fails List.mem_cons_self) (.firstOf_head (.next (.endOfInput hle)))⟩

theorem complete_statement (ℓ : Nat) : Complete tokens "statement" (fun _ => True) ℓ := by
  intro p e hle hd _ i
  obtain ⟨q, hbody, hstop⟩ := derives_statement hd
  obtain ⟨hqe, hf, hstop⟩ := matches_stop hstop
  refine .rule rfl (.sequence_cons ?_ (.sequence_cons hstop .sequence_nil))
  obtain hbody | hbody := hbody
  · exact .firstOf_head (complete_assignment hl ℓ (by omega) hbody hf _)
  · -- no expression starts like an assignment
    have hlet : NoneOf tokens p ["let"] := by
      obtain ⟨t, ht, hs⟩ := (begins_of_expression hl hbody).starts
      exact NoneOf.mono (TextAt.noneOf ⟨t, ht, rfl⟩ (hs.not_mem_others (hl.at ht))) (by decide)
    have hm := (complete_expression_and_power hl ℓ).1 (by omega) hbody hf
    exact .firstOf_tail (.rule rfl (.sequence_head (hlet.fails List.mem_cons_self)))
      (.firstOf_head (hm _))

end

end Calculator

end Packrat
