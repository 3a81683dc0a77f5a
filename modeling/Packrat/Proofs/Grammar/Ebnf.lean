import Mathlib.Data.List.Forall2
import Packrat.Proofs.Grammar.Workshop
import Packrat.Proofs.Peg.Yields

/-!
# Proofs — Grammar — Ebnf

Grammars as they are written down, read as context-free ones.  `Spells table tokens x p e ns` says
that the tokens from `p` to `e` can be derived from `x`, and that the nodes `ns` are what the
derivation makes of them, from left to right.  Any alternative may be taken, any number of rounds,
and an optional part or not: nothing is said about an order of trying.

A matcher `Writes` an expression if it is one way to look for what that stands for.

**Soundness** (`Yields.spelled`): what a matcher yields is derived from the expression it writes, if
the rules write theirs.  **Trees** (`Spells.justified`): the children of all nodes that rules made
are derived from the right-hand sides of these rules.
-/

namespace Packrat

/-- The right-hand side of a rule. -/
inductive Ebnf where
  /-- A token with exactly this text. -/
  | text (s : String)
  /-- A token whose text is like that. -/
  | matching (P : String → Prop)
  | ofKind (k : TokenKind)
  | rule (name : String)
  | nothing
  | cat (x y : Ebnf)
  | alt (x y : Ebnf)
  | opt (x : Ebnf)
  | many (x : Ebnf)
  /-- Only after the last token. -/
  | atEnd
  /-- Only where the next token is none of these words. -/
  | butNot (words : List String)
  /-- Only where the next token touches the one before it. -/
  | adjacent (x : Ebnf)
  /-- In the tree, the tokens are one token of this kind. -/
  | merged (k : TokenKind) (x : Ebnf)
  /-- The tokens are not in the tree. -/
  | dropped (x : Ebnf)

namespace Ebnf

/-- One after the other. -/
def cats : List Ebnf → Ebnf
  | [] => nothing
  | [x] => x
  | x :: xs => cat x (cats xs)

/-- One of one or more. -/
def alts : List Ebnf → Ebnf
  | [] => nothing
  | [x] => x
  | x :: xs => alt x (alts xs)

end Ebnf

section

variable (table : List (String × Ebnf)) (tokens : List Token)

/-- The tokens from the first position to the second are derived from the expression, and these
nodes are made of them. -/
inductive Spells : Ebnf → Nat → Nat → List Node → Prop where
  | text {p s t} : tokens[p]? = some t → t.text = s → Spells (.text s) p (p + 1) [.leaf t]
  | matching {p P t} : tokens[p]? = some t → P t.text → Spells (.matching P) p (p + 1) [.leaf t]
  | ofKind {p k t} : tokens[p]? = some t → t.kind = k → Spells (.ofKind k) p (p + 1) [.leaf t]
  | rule {p e name x ns} : table.lookup name = some x → Spells x p e ns →
      Spells (.rule name) p e [⟨some (.rule name), none, ns⟩]
  | nothing {p} : Spells .nothing p p []
  | cat {p q e x y ns ns'} : Spells x p q ns → Spells y q e ns' →
      Spells (.cat x y) p e (ns ++ ns')
  | altLeft {p e x y ns} : Spells x p e ns → Spells (.alt x y) p e ns
  | altRight {p e x y ns} : Spells y p e ns → Spells (.alt x y) p e ns
  | optNone {p x} : Spells (.opt x) p p []
  | optSome {p e x ns} : Spells x p e ns → Spells (.opt x) p e ns
  | manyNone {p x} : Spells (.many x) p p []
  | manyMore {p q e x ns ns'} : Spells x p q ns → Spells (.many x) q e ns' →
      Spells (.many x) p e (ns ++ ns')
  | atEnd {p} : tokens.length ≤ p → Spells .atEnd p p []
  | butNot {p words} : (∀ t, tokens[p]? = some t → t.text ∉ words) →
      Spells (.butNot words) p p []
  | adjacent {p e x ns} : Touching tokens p → Spells x p e ns → Spells (.adjacent x) p e ns
  | merged {p e k x ns} : Spells x p e ns →
      Spells (.merged k x) p e [.ofMerged k (tokens.extract p e)]
  | dropped {p e x ns} : Spells x p e ns → Spells (.dropped x) p e []

/-- The tokens can be derived, with any nodes. -/
def Derives (x : Ebnf) (p e : Nat) : Prop :=
  ∃ ns, Spells table tokens x p e ns

/-- If the answer is a match, it is derived from the expression. -/
def Answer.Spelled (x : Ebnf) (p : Nat) : Answer → Prop
  | .matched n _ e => Spells table tokens x p e n.spliced
  | .failed _ => True

end

/-- The matcher looks for what the expression stands for. -/
inductive Writes : Matcher → Ebnf → Prop where
  | literal {i s} : Writes ⟨i, .literal s⟩ (.text s)
  | pattern {i r P} : (∀ s, r.accepts s = true → P s) → Writes ⟨i, .pattern r⟩ (.matching P)
  | ofKind {i k} : Writes ⟨i, .ofKind k⟩ (.ofKind k)
  | rule {i name} : Writes ⟨i, .rule name⟩ (.rule name)
  | nothing {i} : Writes ⟨i, .nothing⟩ .nothing
  | endOfInput {i} : Writes ⟨i, .endOfInput⟩ .atEnd
  | beforeEnd {i j} : Writes ⟨i, .next ⟨j, .endOfInput⟩⟩ .atEnd
  | notWord {i j s} : Writes ⟨i, .nextNot ⟨j, .literal s⟩⟩ (.butNot [s])
  | sequence_one {i m x} : Writes m x → Writes ⟨i, .sequence [m]⟩ x
  | sequence_more {i m m' ms x y} : Writes m x → Writes ⟨i, .sequence (m' :: ms)⟩ y →
      Writes ⟨i, .sequence (m :: m' :: ms)⟩ (.cat x y)
  | firstOf_one {i m x} : Writes m x → Writes ⟨i, .firstOf [m]⟩ x
  | firstOf_more {i m m' ms x y} : Writes m x → Writes ⟨i, .firstOf (m' :: ms)⟩ y →
      Writes ⟨i, .firstOf (m :: m' :: ms)⟩ (.alt x y)
  | optional {i m x} : Writes m x → Writes ⟨i, .optional m⟩ (.opt x)
  | zeroOrMore {i m x} : Writes m x → Writes ⟨i, .zeroOrMore m⟩ (.many x)
  | oneOrMore {i m x} : Writes m x → Writes ⟨i, .oneOrMore m⟩ (.cat x (.many x))
  | token {i k m x} : Writes m x → Writes ⟨i, .token k m⟩ (.merged k x)
  | trivia {i k m x} : Writes m x → Writes ⟨i, .trivia k m⟩ (.dropped x)
  | adjacent {i m x} : Writes m x → Writes ⟨i, .adjacent m⟩ (.adjacent x)

/-- Every rule's body writes what the table has for the rule. -/
def Tabled (rules : List (String × Matcher)) (table : List (String × Ebnf)) : Prop :=
  List.Forall₂ (fun r x => r.1 = x.1 ∧ Writes r.2 x.2) rules table

variable {rules : List (String × Matcher)} {table : List (String × Ebnf)} {tokens : List Token}
  {m : Matcher} {x y : Ebnf} {p q e : Nat} {ns : List Node}

theorem Tabled.exists_of_lookup (h : Tabled rules table) {name : String} {body : Matcher}
    (hl : rules.lookup name = some body) : ∃ x, table.lookup name = some x ∧ Writes body x := by
  induction h with
  | nil => cases hl
  | @cons r x _ _ hr _ ih =>
      obtain ⟨rname, rbody⟩ := r
      obtain ⟨xname, xbody⟩ := x
      obtain ⟨rfl, hw⟩ := hr
      rw [List.lookup_cons] at hl ⊢
      cases hb : name == rname with
      | true =>
          simp only [hb] at hl ⊢
          cases hl
          exact ⟨_, rfl, hw⟩
      | false =>
          simp only [hb] at hl ⊢
          exact ih hl

/-! ### Soundness -/

theorem Node.spliced_group_pair (n n' : Node) :
    (group [n, n']).spliced = n.spliced ++ n'.spliced := by
  simp [group, spliced, isGroup]

theorem Node.spliced_group_single (n : Node) : (group [n]).spliced = n.spliced := by
  simp [group, spliced, isGroup]

theorem Node.spliced_ofMerged (k : TokenKind) (ts : List Token) :
    (ofMerged k ts).spliced = [ofMerged k ts] := by
  cases ts <;> rfl

/-- **Soundness.** -/
theorem Yields.spelled (hr : Tabled rules table) {o : Answer} (h : Yields rules tokens m p o)
    (hw : Writes m x) : o.Spelled table tokens x p := by
  induction h generalizing x with
  | literal ht hs => cases hw; exact .text ht hs
  | pattern ht ha => cases hw with | pattern hp => exact .matching ht (hp _ ha)
  | ofKind ht hk => cases hw; exact .ofKind ht hk
  | sequence_nil | firstOf_nil => cases hw
  | @sequence_cons _ _ _ _ _ _ _ _ _ _ _ hy ih ih' =>
      simp only [Answer.Spelled, Node.spliced_group_pair]
      cases hw with
      | sequence_one hw =>
          cases hy
          exact (List.append_nil _).symm ▸ ih hw
      | sequence_more hw hw' => exact .cat (ih hw) (ih' hw')
  | firstOf_head _ ih =>
      cases hw with
      | firstOf_one hw => exact ih hw
      | firstOf_more hw _ => exact .altLeft (ih hw)
  | firstOf_tail _ hy _ ih =>
      cases hw with
      | firstOf_one hw => cases hy
      | firstOf_more _ hw => exact .altRight (ih hw)
  | optional _ ih => cases hw with | optional hw => exact .optSome (ih hw)
  | optional_none => cases hw; exact .optNone
  | zeroOrMore_none => cases hw; exact .manyNone
  | zeroOrMore_last _ ih =>
      simp only [Answer.Spelled, Node.spliced_group_single]
      rw [← List.append_nil (Node.spliced _)]
      cases hw with
      | zeroOrMore hw => exact .manyMore (ih hw) .manyNone
  | zeroOrMore_more _ _ _ ih ih' =>
      simp only [Answer.Spelled, Node.spliced_group_pair]
      cases hw with
      | zeroOrMore hw => exact .manyMore (ih hw) (ih' (.zeroOrMore hw))
  | oneOrMore_last _ ih =>
      simp only [Answer.Spelled, Node.spliced_group_single]
      rw [← List.append_nil (Node.spliced _)]
      cases hw with
      | oneOrMore hw => exact .cat (ih hw) .manyNone
  | oneOrMore_more _ _ _ ih ih' =>
      simp only [Answer.Spelled, Node.spliced_group_pair]
      cases hw with
      | oneOrMore hw => exact .cat (ih hw) (ih' (.zeroOrMore hw))
  | next hy =>
      cases hw
      cases hy with
      | endOfInput hle => exact .atEnd hle
  | nextNot hy =>
      cases hw
      cases hy with
      | literal_fails hn => exact .butNot fun t ht => by simpa using hn t ht
  | endOfInput hle => cases hw; exact .atEnd hle
  | nothing => cases hw; exact .nothing
  | token _ ih =>
      simp only [Answer.Spelled, Node.spliced_ofMerged]
      cases hw with
      | token hw => exact .merged (ih hw)
  | trivia _ ih => cases hw with | trivia hw => exact .dropped (ih hw)
  | @adjacent _ _ _ o ht _ ih =>
      cases hw with
      | adjacent hw =>
          cases o with
          | matched => exact .adjacent ht (ih hw)
          | failed => trivial
  | rule hl _ ih =>
      cases hw
      obtain ⟨x, hx, hw⟩ := hr.exists_of_lookup hl
      exact .rule hx (ih hw)
  | _ => trivial

/-! ### Trees -/

/-- The node was made by a rule, and its children are derived from the rule's right-hand side. -/
def Node.Justified (table : List (String × Ebnf)) (tokens : List Token) (n : Node) : Prop :=
  ∀ name, n.kind = some (.rule name) →
    ∃ x p e, table.lookup name = some x ∧ Spells table tokens x p e n.children

/-- A node without children that was made of tokens. -/
theorem Node.justified_of_token {k : TokenKind} {t : Option Token} :
    ∀ n ∈ preorderList [⟨some (.token k), t, []⟩], n.Justified table tokens := by
  intro n hn name hk
  simp only [preorderList, preorder, List.append_nil, List.mem_singleton] at hn
  cases hn
  cases hk

/-- **Trees.** -/
theorem Spells.justified (h : Spells table tokens x p e ns) :
    ∀ n ∈ Node.preorderList ns, n.Justified table tokens := by
  induction h with
  | text | matching | ofKind => exact Node.justified_of_token
  | @rule p e name x ns hl hx ih =>
      intro n hn
      simp only [Node.preorderList, Node.preorder, List.append_nil, List.mem_cons] at hn
      rcases hn with rfl | hn
      · rintro name ⟨⟩
        exact ⟨x, p, e, hl, hx⟩
      · exact ih n hn
  | nothing | optNone | manyNone | atEnd | butNot | dropped => exact List.forall_mem_nil _
  | cat _ _ ih ih' | manyMore _ _ ih ih' =>
      rw [Node.preorderList_append]
      exact List.forall_mem_append.mpr ⟨ih, ih'⟩
  | altLeft _ ih | altRight _ ih | optSome _ ih | adjacent _ _ ih => exact ih
  | @merged p e k x ns _ _ =>
      cases tokens.extract p e <;> exact Node.justified_of_token

/-! ### Derivations -/

theorem Derives.le (h : Derives table tokens x p e) : p ≤ e := by
  obtain ⟨ns, h⟩ := h
  induction h <;> omega

/-- The token at the position has this text. -/
def TextAt (tokens : List Token) (p : Nat) (s : String) : Prop :=
  ∃ t, tokens[p]? = some t ∧ t.text = s

/-- The token at the position, if there is one, has none of these texts. -/
def NoneOf (tokens : List Token) (p : Nat) (texts : List String) : Prop :=
  ∀ t, tokens[p]? = some t → t.text ∉ texts

/-- There is only one token at a position. -/
theorem forall_token_at {P : Token → Prop} {t : Token} (ht : tokens[p]? = some t) (h : P t) :
    ∀ t', tokens[p]? = some t' → P t' := by
  intro t' ht'
  cases ht.symm.trans ht'
  exact h

section

variable {s : String} {k : TokenKind} {name : String} {P : String → Prop} {words : List String}

theorem derives_text_iff :
    Derives table tokens (.text s) p e ↔ e = p + 1 ∧ TextAt tokens p s := by
  constructor
  · rintro ⟨_, h⟩
    cases h with
    | text ht hs => exact ⟨rfl, _, ht, hs⟩
  · rintro ⟨rfl, t, ht, hs⟩
    exact ⟨_, .text ht hs⟩

theorem derives_matching_iff :
    Derives table tokens (.matching P) p e ↔ e = p + 1 ∧ ∃ t, tokens[p]? = some t ∧ P t.text := by
  constructor
  · rintro ⟨_, h⟩
    cases h with
    | matching ht hp => exact ⟨rfl, _, ht, hp⟩
  · rintro ⟨rfl, t, ht, hp⟩
    exact ⟨_, .matching ht hp⟩

theorem derives_ofKind_iff :
    Derives table tokens (.ofKind k) p e ↔ e = p + 1 ∧ ∃ t, tokens[p]? = some t ∧ t.kind = k := by
  constructor
  · rintro ⟨_, h⟩
    cases h with
    | ofKind ht hk => exact ⟨rfl, _, ht, hk⟩
  · rintro ⟨rfl, t, ht, hk⟩
    exact ⟨_, .ofKind ht hk⟩

theorem derives_rule_iff (hl : table.lookup name = some x) :
    Derives table tokens (.rule name) p e ↔ Derives table tokens x p e := by
  constructor
  · rintro ⟨_, h⟩
    cases h with
    | rule hl' h =>
        cases hl.symm.trans hl'
        exact ⟨_, h⟩
  · rintro ⟨_, h⟩
    exact ⟨_, .rule hl h⟩

theorem derives_nothing_iff : Derives table tokens .nothing p e ↔ e = p := by
  constructor
  · rintro ⟨_, h⟩
    cases h
    rfl
  · rintro rfl
    exact ⟨_, .nothing⟩

theorem derives_cat_iff :
    Derives table tokens (.cat x y) p e ↔
      ∃ q, Derives table tokens x p q ∧ Derives table tokens y q e := by
  constructor
  · rintro ⟨_, h⟩
    cases h with
    | cat h h' => exact ⟨_, ⟨_, h⟩, _, h'⟩
  · rintro ⟨q, ⟨_, h⟩, _, h'⟩
    exact ⟨_, .cat h h'⟩

theorem derives_alt_iff :
    Derives table tokens (.alt x y) p e ↔
      Derives table tokens x p e ∨ Derives table tokens y p e := by
  constructor
  · rintro ⟨_, h⟩
    cases h with
    | altLeft h => exact .inl ⟨_, h⟩
    | altRight h => exact .inr ⟨_, h⟩
  · rintro (⟨_, h⟩ | ⟨_, h⟩)
    · exact ⟨_, .altLeft h⟩
    · exact ⟨_, .altRight h⟩

theorem derives_opt_iff :
    Derives table tokens (.opt x) p e ↔ e = p ∨ Derives table tokens x p e := by
  constructor
  · rintro ⟨_, h⟩
    cases h with
    | optNone => exact .inl rfl
    | optSome h => exact .inr ⟨_, h⟩
  · rintro (rfl | ⟨_, h⟩)
    · exact ⟨_, .optNone⟩
    · exact ⟨_, .optSome h⟩

theorem derives_many_iff :
    Derives table tokens (.many x) p e ↔
      e = p ∨ ∃ q, Derives table tokens x p q ∧ Derives table tokens (.many x) q e := by
  constructor
  · rintro ⟨_, h⟩
    cases h with
    | manyNone => exact .inl rfl
    | manyMore h h' => exact .inr ⟨_, ⟨_, h⟩, _, h'⟩
  · rintro (rfl | ⟨q, ⟨_, h⟩, _, h'⟩)
    · exact ⟨_, .manyNone⟩
    · exact ⟨_, .manyMore h h'⟩

theorem derives_atEnd_iff :
    Derives table tokens .atEnd p e ↔ e = p ∧ tokens.length ≤ p := by
  constructor
  · rintro ⟨_, h⟩
    cases h with
    | atEnd hle => exact ⟨rfl, hle⟩
  · rintro ⟨rfl, hle⟩
    exact ⟨_, .atEnd hle⟩

theorem derives_butNot_iff :
    Derives table tokens (.butNot words) p e ↔ e = p ∧ NoneOf tokens p words := by
  constructor
  · rintro ⟨_, h⟩
    cases h with
    | butNot hn => exact ⟨rfl, hn⟩
  · rintro ⟨rfl, hn⟩
    exact ⟨_, .butNot hn⟩

theorem derives_adjacent_iff :
    Derives table tokens (.adjacent x) p e ↔ Touching tokens p ∧ Derives table tokens x p e := by
  constructor
  · rintro ⟨_, h⟩
    cases h with
    | adjacent ht h => exact ⟨ht, _, h⟩
  · rintro ⟨ht, _, h⟩
    exact ⟨_, .adjacent ht h⟩

theorem derives_merged_iff :
    Derives table tokens (.merged k x) p e ↔ Derives table tokens x p e := by
  constructor
  · rintro ⟨_, h⟩
    cases h with
    | merged h => exact ⟨_, h⟩
  · rintro ⟨_, h⟩
    exact ⟨_, .merged h⟩

theorem derives_dropped_iff :
    Derives table tokens (.dropped x) p e ↔ Derives table tokens x p e := by
  constructor
  · rintro ⟨_, h⟩
    cases h with
    | dropped h => exact ⟨_, h⟩
  · rintro ⟨_, h⟩
    exact ⟨_, .dropped h⟩

/-- What holds after the last round, and before a round if after it, holds before all rounds. -/
theorem Derives.many_induction {motive : Nat → Prop} (h : Derives table tokens (.many x) p e)
    (none : motive e) (more : ∀ p q, Derives table tokens x p q →
      Derives table tokens (.many x) q e → motive q → motive p) : motive p := by
  obtain ⟨ns, h⟩ := h
  generalize hy : Ebnf.many x = y at h
  induction h with
  | manyNone => exact none
  | manyMore h h' _ ih =>
      cases hy
      exact more _ _ ⟨_, h⟩ ⟨_, h'⟩ (ih none more rfl)
  | _ => cases hy

end

end Packrat
