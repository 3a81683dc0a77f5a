import Mathlib.Data.List.Chain
import Packrat.Proofs.Calculator.Language
import Packrat.Proofs.Calculator.Printed
import Packrat.Proofs.Peg.Tiling

/-!
# Proofs — Calculator — Phrases

Which tokens stand next to each other in a tree without calls.  The `edges` of a right-hand side
are the classes of tokens that can come first or last in what is derived from it.  Those of the
rules are given by a table (`ruleEdges`), which is checked against the grammar (`linked_ebnf`).

**Phrases** (`reads_and_framed`): the tokens of a tree that a rule made, other than of a whole
program, are made of the tokens that the rule matched.  In a tree without calls no parenthesis
follows a name, and none of two operators that follow each other is a star.
-/

namespace Packrat.Calculator

open Attempt

variable {tokens rs rs' us us' : List Token} {r r' t u v : Token} {x y : Ebnf} {p q e : Nat}
  {ns : List Node}

/-! ### Tokens of trees -/

theorem Reads.append (h : Reads rs us) (h' : Reads rs' us') : Reads (rs ++ rs') (us ++ us') := by
  induction h with
  | nil => exact h'
  | one hk hkind htext _ ih => exact .one hk hkind htext ih
  | stars hk htext hr hr' htouch _ ih => exact .stars hk htext hr hr' htouch ih

/-- What tokens in two parts are made of has two parts. -/
theorem Reads.exists_append (h : Reads rs (us ++ us')) :
    ∃ rs₁ rs₂, rs = rs₁ ++ rs₂ ∧ Reads rs₁ us ∧ Reads rs₂ us' := by
  induction us generalizing rs with
  | nil => exact ⟨[], rs, rfl, .nil, h⟩
  | cons u us ih =>
      cases h with
      | one hk hkind htext h =>
          obtain ⟨rs₁, rs₂, rfl, h₁, h₂⟩ := ih h
          exact ⟨_ :: rs₁, rs₂, rfl, .one hk hkind htext h₁, h₂⟩
      | stars hk htext hr hr' htouch h =>
          obtain ⟨rs₁, rs₂, rfl, h₁, h₂⟩ := ih h
          exact ⟨_ :: _ :: rs₁, rs₂, rfl, .stars hk htext hr hr' htouch h₁, h₂⟩

/-- In the right-hand side, nothing is dropped and nothing is merged but two stars that touch; it
does not refer to programs. -/
def Kept : Ebnf → Prop
  | .dropped _ => False
  | .merged k x => k = power ∧ x = .cat (.text "*") (.adjacent (.text "*"))
  | .rule name => name ≠ "program"
  | .text s => s ∈ punctuation ∨ s = "let"
  | .matching P => ∀ s, P s → IsDecimal s
  | .ofKind k => k = number ∨ k = .identifier
  | .cat x y | .alt x y => Kept x ∧ Kept y
  | .opt x | .many x | .adjacent x => Kept x
  | .nothing | .atEnd | .butNot _ => True

theorem kept_ebnf : ∀ r ∈ ebnf, r.1 ≠ "program" → Kept r.2 := by
  simp [ebnf, chain, link, more, Ebnf.cats, Ebnf.alts, Kept, punctuation]

theorem kept_of_lookup {name : String} (hl : ebnf.lookup name = some x) (hname : name ≠ "program") :
    Kept x :=
  kept_ebnf (name, x) (mem_of_lookup hl) hname

theorem Lexeme.kind_ne_power {kind : TokenKind} {cs : List Char} (h : Lexeme kind cs) :
    kind ≠ power := by
  cases h <;> decide

theorem Reads.single (ht : Lexeme t.kind t.text.toList) : Reads [t] [t] :=
  .one ht.kind_ne_power rfl rfl .nil

theorem exists_stars (hl : Lexed tokens)
    (h : Derives ebnf tokens (.cat (.text "*") (.adjacent (.text "*"))) p e) :
    ∃ a b, tokens.extract p e = [a, b] ∧ IsStar a ∧ IsStar b ∧ touches a b = true := by
  obtain ⟨q, hstar, hsecond⟩ := derives_cat_iff.mp h
  obtain ⟨rfl, t, ht, htext⟩ := derives_text_iff.mp hstar
  obtain ⟨⟨i, a, b, hi, ha, hb, htouch⟩, hsecond⟩ := derives_adjacent_iff.mp hsecond
  obtain ⟨rfl, t', ht', htext'⟩ := derives_text_iff.mp hsecond
  obtain rfl : p = i := Nat.succ.inj hi
  obtain rfl : a = t := Option.some.inj (ha.symm.trans ht)
  obtain rfl : b = t' := Option.some.inj (hb.symm.trans ht')
  have hstar : ∀ {a}, a ∈ tokens → a.text = "*" → IsStar a := fun ha hs =>
    ⟨kind_of_mem_punctuation (hl _ ha) (by simp [hs, punctuation]), hs⟩
  refine ⟨a, b, ?_, hstar (List.mem_of_getElem? ht) htext,
    hstar (List.mem_of_getElem? ht') htext', touches_eq_true_iff.mpr htouch⟩
  rw [← extract_append tokens (Nat.le_succ p) (Nat.le_succ (p + 1)), extract_succ ht,
    extract_succ ht', List.singleton_append]

/-- Two stars that touch are read as the token they become. -/
theorem reads_of_stars (hr : IsStar r) (hr' : IsStar r') (htouch : touches r r' = true) :
    Reads [r, r'] (Node.ofMerged power [r, r']).tokens := by
  refine .stars rfl ?_ hr hr' htouch .nil
  show String.join [r.text, r'.text] = "**"
  rw [hr.2, hr'.2]
  rfl

/-- The tokens of a derivation are made of those that it derives. -/
theorem reads_of_spells (hl : Lexed tokens) (h : Spells ebnf tokens x p e ns) (hx : Kept x) :
    Reads (tokens.extract p e) (Node.tokensList ns) := by
  induction h with
  | text ht | matching ht | ofKind ht =>
      rw [extract_succ ht]
      exact .single (hl.at ht)
  | rule hlookup _ ih =>
      simp only [Node.tokensList, Node.tokens, Option.toList_none, List.nil_append, List.append_nil]
      exact ih (kept_of_lookup hlookup hx)
  | nothing | optNone | manyNone | atEnd | butNot =>
      rw [extract_self]
      exact .nil
  | @cat p q e x y ns ns' h h' ih ih' =>
      rw [Node.tokensList_append, ← extract_append tokens (Derives.le ⟨_, h⟩) (Derives.le ⟨_, h'⟩)]
      exact (ih hx.1).append (ih' hx.2)
  | manyMore h h' ih ih' =>
      rw [Node.tokensList_append, ← extract_append tokens (Derives.le ⟨_, h⟩) (Derives.le ⟨_, h'⟩)]
      exact (ih hx).append (ih' hx)
  | altLeft _ ih => exact ih hx.1
  | altRight _ ih => exact ih hx.2
  | optSome _ ih | adjacent _ _ ih => exact ih hx
  | merged h =>
      obtain ⟨rfl, rfl⟩ := hx
      obtain ⟨a, b, hstars, ha, hb, htouch⟩ := exists_stars hl ⟨_, h⟩
      rw [hstars]
      exact reads_of_stars ha hb htouch
  | dropped => exact absurd hx id

/-! ### Classes -/

/-- What is to be told apart of the tokens of trees. -/
inductive TokenClass where
  | number
  | word
  | power
  | sign (s : String)
  deriving DecidableEq

namespace TokenClass

/-- The token is of the class. -/
def Has : TokenClass → Token → Prop
  | number, t => t.kind = Calculator.number
  | word, t => t.kind = .identifier
  | power, t => t.kind = Calculator.power
  | sign s, t => t.kind = .punctuator ∧ t.text = s

/-- Is it an operator that has stars? -/
def starred (a : TokenClass) : Bool :=
  a = power || a = sign "*"

/-- Can the second come right after the first, as long as there are no calls? -/
def precedes (a b : TokenClass) : Bool :=
  !(a = word && b = sign "(") && !(a.starred && b.starred)

end TokenClass

/-- The tokens are of classes that can follow each other. -/
def Follows (u v : Token) : Prop :=
  ∃ a b : TokenClass, a.Has u ∧ b.Has v ∧ a.precedes b = true

/-- Which classes of tokens can be at the ends, and can there be no tokens at all? -/
structure Edges where
  first : List TokenClass
  last : List TokenClass
  empty : Bool

namespace Edges

def none : Edges := ⟨[], [], true⟩

def one (a : TokenClass) : Edges := ⟨[a], [a], false⟩

def andThen (E E' : Edges) : Edges where
  first := E.first ++ if E.empty then E'.first else []
  last := E'.last ++ if E'.empty then E.last else []
  empty := E.empty && E'.empty

def or (E E' : Edges) : Edges :=
  ⟨E.first ++ E'.first, E.last ++ E'.last, E.empty || E'.empty⟩

/-- Can what has the second edges come right after what has the first? -/
def precedes (E E' : Edges) : Bool :=
  E.last.all fun a => E'.first.all fun b => a.precedes b

/-- What has the first edges has the second. -/
def within (E E' : Edges) : Bool :=
  E.first.all (· ∈ E'.first) && E.last.all (· ∈ E'.last) && (!E.empty || E'.empty)

end Edges

/-- Operands start with a number, a name, a parenthesis or a minus sign, and they do not end with an
operator. -/
def operandEdges : Edges where
  first := [.number, .word, .sign "(", .sign "-"]
  last := [.number, .word, .sign ")"]
  empty := false

/-- The edges of what the rules make, if there are no calls. -/
def ruleEdges (name : String) : Edges :=
  if name = "name" then .one .word
  else if name = "number" then .one .number
  else if name = "assignment" then { operandEdges with first := [.word] }
  else if name = "arguments" then { operandEdges with empty := true }
  else if name = "statement" then
    { operandEdges with last := [.number, .word, .sign ")", .sign ";"] }
  else if name = "call" then ⟨[], [], false⟩
  else operandEdges

def edges : Ebnf → Edges
  | .text s => .one (if s = "let" then .word else .sign s)
  | .matching _ => .one .number
  | .ofKind k => .one (if k = number then .number else .word)
  | .rule name => ruleEdges name
  | .nothing | .atEnd | .butNot _ | .dropped _ => .none
  | .cat x y => (edges x).andThen (edges y)
  | .alt x y => (edges x).or (edges y)
  | .opt x | .many x => (edges x).or .none
  | .adjacent x => edges x
  | .merged _ _ => .one .power

/-- Can everything come one after the other that does in the right-hand side? -/
def linked : Ebnf → Bool
  | .cat x y => linked x && linked y && (edges x).precedes (edges y)
  | .alt x y => linked x && linked y
  | .opt x | .adjacent x => linked x
  | .many x => linked x && (edges x).precedes (edges x)
  | _ => true

/-- What the rules refer to has the edges that are given, and everything can come one after the
other. -/
theorem linked_ebnf : ∀ r ∈ ebnf, r.1 ≠ "program" → r.1 ≠ "call" →
    linked r.2 = true ∧ (edges r.2).within (ruleEdges r.1) = true := by
  decide

/-! ### Phrases -/

/-- The tokens can all come one after the other, and at their ends are what the edges say. -/
structure Framed (E : Edges) (us : List Token) : Prop where
  follows : us.IsChain Follows
  classed : ∀ u ∈ us, ∃ a : TokenClass, a.Has u
  first : ∀ u, us.head? = some u → ∃ a ∈ E.first, a.Has u
  last : ∀ u, us.getLast? = some u → ∃ a ∈ E.last, a.Has u
  empty : us = [] → E.empty = true

namespace Framed

variable {E E' : Edges} {a : TokenClass}

theorem nil : Framed .none [] where
  follows := .nil
  classed := List.forall_mem_nil _
  first := fun _ h => by cases h
  last := fun _ h => by cases h
  empty := fun _ => rfl

theorem one (h : a.Has u) : Framed (.one a) [u] where
  follows := .singleton u
  classed := List.forall_mem_singleton.mpr ⟨a, h⟩
  first := fun _ hu => by
    cases hu
    exact ⟨a, List.mem_singleton_self a, h⟩
  last := fun _ hu => by
    cases hu
    exact ⟨a, List.mem_singleton_self a, h⟩
  empty := fun h => by cases h

theorem mono (h : Framed E us) (hE : E.within E' = true) : Framed E' us := by
  simp only [Edges.within, Bool.and_eq_true, List.all_eq_true, decide_eq_true_eq, Bool.or_eq_true,
    Bool.not_eq_true'] at hE
  obtain ⟨⟨hfirst, hlast⟩, hempty⟩ := hE
  refine ⟨h.follows, h.classed, fun u hu => ?_, fun u hu => ?_, fun hus => ?_⟩
  · obtain ⟨a, ha, hau⟩ := h.first u hu
    exact ⟨a, hfirst a ha, hau⟩
  · obtain ⟨a, ha, hau⟩ := h.last u hu
    exact ⟨a, hlast a ha, hau⟩
  · exact hempty.resolve_left (by simp [h.empty hus])

theorem orLeft (h : Framed E us) : Framed (E.or E') us :=
  h.mono (by simp [Edges.within, Edges.or]; grind)

theorem orRight (h : Framed E us) : Framed (E'.or E) us :=
  h.mono (by simp [Edges.within, Edges.or]; grind)

theorem append (h : Framed E us) (h' : Framed E' us') (hp : E.precedes E' = true) :
    Framed (E.andThen E') (us ++ us') where
  follows := by
    refine List.isChain_append.mpr ⟨h.follows, h'.follows, fun u hu v hv => ?_⟩
    obtain ⟨a, ha, hau⟩ := h.last u hu
    obtain ⟨b, hb, hbv⟩ := h'.first v hv
    simp only [Edges.precedes, List.all_eq_true] at hp
    exact ⟨a, b, hau, hbv, hp a ha b hb⟩
  classed := List.forall_mem_append.mpr ⟨h.classed, h'.classed⟩
  first := fun u hu => by
    rw [List.head?_append, Option.or_eq_some_iff] at hu
    rcases hu with hu | ⟨hnone, hu⟩
    · obtain ⟨a, ha, hau⟩ := h.first u hu
      exact ⟨a, List.mem_append_left _ ha, hau⟩
    · obtain ⟨a, ha, hau⟩ := h'.first u hu
      have hempty := h.empty (List.head?_eq_none_iff.mp hnone)
      exact ⟨a, by simp [Edges.andThen, hempty, ha], hau⟩
  last := fun u hu => by
    rw [List.getLast?_append, Option.or_eq_some_iff] at hu
    rcases hu with hu | ⟨hnone, hu⟩
    · obtain ⟨a, ha, hau⟩ := h'.last u hu
      exact ⟨a, List.mem_append_left _ ha, hau⟩
    · obtain ⟨a, ha, hau⟩ := h.last u hu
      have hempty := h'.empty (List.getLast?_eq_none_iff.mp hnone)
      exact ⟨a, by simp [Edges.andThen, hempty, ha], hau⟩
  empty := fun hus => by
    obtain ⟨rfl, rfl⟩ := List.append_eq_nil_iff.mp hus
    simp [Edges.andThen, h.empty rfl, h'.empty rfl]

end Framed

/-- There is no call among the nodes and below them. -/
def CallFree (ns : List Node) : Prop :=
  ∀ n ∈ Node.preorderList ns, n.kind ≠ some (.rule "call")

theorem CallFree.append_iff {ns' : List Node} :
    CallFree (ns ++ ns') ↔ CallFree ns ∧ CallFree ns' := by
  simp only [CallFree, Node.preorderList_append, List.forall_mem_append]

theorem CallFree.of_children {kind : Option NodeKind} {token : Option Token} {ns : List Node}
    (h : CallFree [⟨kind, token, ns⟩]) : CallFree ns := fun n hn =>
  h n (List.mem_append_left _ (List.mem_cons_of_mem _ hn))

theorem has_of_text {s : String} (ht : Lexeme t.kind t.text.toList) (hs : t.text = s)
    (hp : s ∈ punctuation ∨ s = "let") :
    (if s = "let" then TokenClass.word else .sign s).Has t := by
  by_cases hlet : s = "let"
  · rw [if_pos hlet]
    exact kind_of_let ht (hs.trans hlet)
  · rw [if_neg hlet]
    exact ⟨kind_of_mem_punctuation ht (hs ▸ hp.resolve_right hlet), hs⟩

/-- The tokens of a derivation without calls can come one after the other. -/
theorem framed_of_spells (hl : Lexed tokens) (h : Spells ebnf tokens x p e ns) (hx : Kept x)
    (hlinked : linked x = true) (hcalls : CallFree ns) :
    Framed (edges x) (Node.tokensList ns) := by
  induction h with
  | text ht hs => exact .one (has_of_text (hl.at ht) hs hx)
  | matching ht hP => exact .one (kind_of_isDecimal (hl.at ht) (hx _ hP))
  | @ofKind p k t ht hk =>
      refine .one ?_
      by_cases hn : k = number
      · rw [if_pos hn]
        exact hk.trans hn
      · rw [if_neg hn]
        exact hk.trans (hx.resolve_left hn)
  | @rule p e name x ns hlookup _ ih =>
      simp only [Node.tokensList, Node.tokens, Option.toList_none, List.nil_append, List.append_nil]
      obtain ⟨hself, hbelow⟩ : name ≠ "call" ∧ CallFree ns := by
        simpa [CallFree, Node.preorderList, Node.preorder] using hcalls
      obtain ⟨hlinked, hwithin⟩ := linked_ebnf (name, x) (mem_of_lookup hlookup) hx hself
      exact (ih (kept_of_lookup hlookup hx) hlinked hbelow).mono hwithin
  | nothing | atEnd | butNot => exact .nil
  | optNone | manyNone => exact Framed.nil.orRight
  | cat _ _ ih ih' =>
      rw [CallFree.append_iff] at hcalls
      simp only [linked, Bool.and_eq_true] at hlinked
      obtain ⟨⟨hlinked, hlinked'⟩, hp⟩ := hlinked
      rw [Node.tokensList_append]
      exact (ih hx.1 hlinked hcalls.1).append (ih' hx.2 hlinked' hcalls.2) hp
  | manyMore _ _ ih ih' =>
      rw [CallFree.append_iff] at hcalls
      have hrounds := hlinked
      simp only [linked, Bool.and_eq_true] at hlinked
      rw [Node.tokensList_append]
      refine ((ih hx hlinked.1 hcalls.1).append (ih' hx hrounds hcalls.2) ?_).mono ?_
      · simpa [edges, Edges.or, Edges.none, Edges.precedes] using hlinked.2
      · simp [edges, Edges.or, Edges.none, Edges.andThen, Edges.within]
  | altLeft _ ih =>
      simp only [linked, Bool.and_eq_true] at hlinked
      exact (ih hx.1 hlinked.1 hcalls).orLeft
  | altRight _ ih =>
      simp only [linked, Bool.and_eq_true] at hlinked
      exact (ih hx.2 hlinked.2 hcalls).orRight
  | optSome _ ih => exact (ih hx hlinked hcalls).orLeft
  | adjacent _ _ ih => exact ih hx hlinked hcalls
  | @merged p e k x ns h =>
      obtain ⟨rfl, rfl⟩ := hx
      obtain ⟨a, b, hstars, -⟩ := exists_stars hl ⟨_, h⟩
      rw [hstars]
      exact .one rfl
  | dropped => exact absurd hx id

/-- **Phrases.** -/
theorem reads_and_framed (hl : Lexed tokens) {name : String} (hname : name ≠ "program") {n : Node}
    (h : Spells ebnf tokens (.rule name) p e [n]) (hcalls : CallFree [n]) :
    Reads (tokens.extract p e) n.tokens ∧ Framed (ruleEdges name) n.tokens := by
  have hreads := reads_of_spells hl h hname
  have hframed := framed_of_spells hl h hname rfl hcalls
  simp only [Node.tokensList, List.append_nil] at hreads hframed
  exact ⟨hreads, hframed⟩

/-! ### Tokens of the source -/

/-- None of the tokens that are read is a comment. -/
theorem Reads.kind_ne_comment (h : Reads rs us) (hus : ∀ u ∈ us, ∃ a : TokenClass, a.Has u) :
    ∀ r ∈ rs, r.kind ≠ .comment := by
  have hclass : ∀ {u : Token}, (∃ a : TokenClass, a.Has u) → u.kind ≠ .comment := by
    rintro u ⟨a, ha⟩ hk
    cases a with
    | number | word | power => exact absurd (hk.symm.trans ha) (by decide)
    | sign => exact absurd (hk.symm.trans ha.1) (by decide)
  induction h with
  | nil => exact List.forall_mem_nil _
  | one _ hk _ _ ih =>
      obtain ⟨hu, hus⟩ := List.forall_mem_cons.mp hus
      exact List.forall_mem_cons.mpr ⟨hk ▸ hclass hu, ih hus⟩
  | stars _ _ hr hr' _ _ ih =>
      obtain ⟨-, hus⟩ := List.forall_mem_cons.mp hus
      have hstar : ∀ {r : Token}, IsStar r → r.kind ≠ .comment := fun hr hk =>
        absurd (hk.symm.trans hr.1) (by decide)
      exact List.forall_mem_cons.mpr ⟨hstar hr, List.forall_mem_cons.mpr ⟨hstar hr', ih hus⟩⟩

/-- The second token of a source can come right after the first if there are no calls; two stars
touch. -/
structure Joint (r r' : Token) : Prop where
  no_call : r.kind = .identifier → r'.text ≠ "("
  stars : r.text = "*" → r'.text = "*" → touches r r' = true

/-- The token of a source stands at the end of a token of a tree that is made of it. -/
def StandsIn (r u : Token) : Prop :=
  (r.kind = u.kind ∧ r.text = u.text) ∨ (u.kind = power ∧ IsStar r)

theorem Reads.exists_head (h : Reads (r :: rs) us) : ∃ u, us.head? = some u ∧ StandsIn r u := by
  cases h with
  | one _ hk ht => exact ⟨_, rfl, .inl ⟨hk, ht⟩⟩
  | stars hk _ hr => exact ⟨_, rfl, .inr ⟨hk, hr⟩⟩

namespace TokenClass

variable {a b : TokenClass}

theorem Has.eq_word (h : a.Has u) (hk : u.kind = .identifier) : a = word := by
  cases a with
  | word => rfl
  | number => exact absurd (hk.symm.trans h) (by decide)
  | power => exact absurd (hk.symm.trans h) (by decide)
  | sign => exact absurd (hk.symm.trans h.1) (by decide)

theorem Has.eq_sign (h : a.Has u) (hk : u.kind = .punctuator) : a = sign u.text := by
  cases a with
  | word => exact absurd (hk.symm.trans h) (by decide)
  | number => exact absurd (hk.symm.trans h) (by decide)
  | power => exact absurd (hk.symm.trans h) (by decide)
  | sign => rw [h.2]

theorem Has.eq_power (h : a.Has u) (hk : u.kind = Calculator.power) : a = power := by
  cases a with
  | word => exact absurd (hk.symm.trans h) (by decide)
  | number => exact absurd (hk.symm.trans h) (by decide)
  | power => rfl
  | sign => exact absurd (hk.symm.trans h.1) (by decide)

theorem Has.starred_of_standsIn (h : a.Has u) (hr : StandsIn r u) (hs : IsStar r) :
    a.starred = true := by
  rcases hr with ⟨hk, ht⟩ | ⟨hk, -⟩
  · rw [h.eq_sign (hk.symm.trans hs.1), ← ht, hs.2]
    rfl
  · rw [h.eq_power hk]
    rfl

end TokenClass

theorem joint_of_follows (h : Follows u v) (hu : StandsIn r u) (hv : StandsIn r' v)
    (hr : Lexeme r.kind r.text.toList) (hr' : Lexeme r'.kind r'.text.toList) : Joint r r' := by
  obtain ⟨a, b, hau, hbv, hp⟩ := h
  simp only [TokenClass.precedes, Bool.and_eq_true, Bool.not_eq_true', Bool.and_eq_false_iff,
    decide_eq_false_iff_not] at hp
  obtain ⟨hcall, hstars⟩ := hp
  have hsign : ∀ {t : Token}, Lexeme t.kind t.text.toList → t.text ∈ punctuation →
      t.kind = .punctuator := fun h ht => kind_of_mem_punctuation h ht
  refine ⟨fun hk ht => ?_, fun hs hs' => ?_⟩
  · have hk' := hsign hr' (by simp [ht, punctuation])
    have ha : a = .word := by
      rcases hu with ⟨hku, -⟩ | ⟨-, hstar⟩
      · exact hau.eq_word (hku.symm.trans hk)
      · exact absurd (hk.symm.trans hstar.1) (by decide)
    have hb : b = .sign "(" := by
      rcases hv with ⟨hkv, htv⟩ | ⟨-, hstar⟩
      · rw [hbv.eq_sign (hkv.symm.trans hk'), ← htv, ht]
      · exact absurd (ht.symm.trans hstar.2) (by decide)
    exact hcall.elim (absurd ha) (absurd hb)
  · -- none of two operators in a row has stars
    have ha := hau.starred_of_standsIn hu ⟨hsign hr (by simp [hs, punctuation]), hs⟩
    have hb := hbv.starred_of_standsIn hv ⟨hsign hr' (by simp [hs', punctuation]), hs'⟩
    rcases hstars with h | h
    · rw [ha] at h
      cases h
    · rw [hb] at h
      cases h

/-- What the tokens of a tree are made of can come one after the other like they do. -/
theorem Reads.isChain_joint (h : Reads rs us) (hus : us.IsChain Follows)
    (hrs : ∀ r ∈ rs, Lexeme r.kind r.text.toList) : rs.IsChain Joint := by
  -- the junction of a token with the rest
  have hcons : ∀ {r u : Token} {rs us : List Token}, Reads rs us → (u :: us).IsChain Follows →
      StandsIn r u → (∀ r' ∈ r :: rs, Lexeme r'.kind r'.text.toList) → rs.IsChain Joint →
      (r :: rs).IsChain Joint := by
    intro r u rs us h hus hr hrs hchain
    cases rs with
    | nil => exact .singleton r
    | cons r' rs =>
        obtain ⟨v, hv, hr'⟩ := h.exists_head
        obtain ⟨us, rfl⟩ := List.head?_eq_some_iff.mp hv
        exact .cons_cons (joint_of_follows (List.isChain_cons_cons.mp hus).1 hr hr'
          (hrs _ List.mem_cons_self) (hrs _ (List.mem_cons_of_mem _ List.mem_cons_self))) hchain
  induction h with
  | nil => exact .nil
  | one _ hk ht h ih =>
      exact hcons h hus (.inl ⟨hk, ht⟩) hrs (ih hus.tail (List.forall_mem_cons.mp hrs).2)
  | @stars r r' u rs us hk _ hr hr' htouch h ih =>
      obtain ⟨hlex, hrest⟩ := List.forall_mem_cons.mp hrs
      have hsecond := hcons h hus (.inr ⟨hk, hr'⟩) hrest
        (ih hus.tail (List.forall_mem_cons.mp hrest).2)
      refine .cons_cons ⟨fun hk' => ?_, fun _ _ => htouch⟩ hsecond
      exact absurd (hk'.symm.trans hr.1) (by decide)

end Packrat.Calculator
