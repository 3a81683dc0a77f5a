import Packrat.Proofs.Grammar.Ebnf
import Packrat.Proofs.Peg.Tiling

/-!
# Proofs — Grammar — Merged

Trees of grammars that merge only tokens that touch.  An expression is *solid* if whatever is
derived from it is one token or more, each touching the one before it.

**Made in order** (`Spells.madeInOrder`): if everything merged is solid, each token of a tree is
made of tokens that touch, and one after the other the tokens of the tree are made of the tokens
that it was derived for.
-/

namespace Packrat

/-! ### Merging -/

/-- The token has the texts of the tokens from `p` up to `e`, all of which touch, and the place of
the first of them. -/
structure Token.MadeOf (tokens : List Token) (p e : Nat) (t : Token) : Prop where
  lt : p < e
  le : e ≤ tokens.length
  caret_eq : ∃ a, tokens[p]? = some a ∧ t.caret = a.caret
  text_eq : t.text.toList = (tokens.extract p e).flatMap (·.text.toList)
  touching : ∀ i, p < i → i < e → Touching tokens i

/-- The tokens are made, one after the other, of tokens from `p` up to `e`. -/
inductive MadeInOrder (tokens : List Token) : Nat → Nat → List Token → Prop where
  | nil {p e} : p ≤ e → MadeInOrder tokens p e []
  | cons {p i j e t ts} : p ≤ i → t.MadeOf tokens i j → MadeInOrder tokens j e ts →
      MadeInOrder tokens p e (t :: ts)

namespace Ebnf

/-- What is derived from the expression is one token or more, and they touch. -/
def Solid (table : List (String × Ebnf)) (tokens : List Token) (x : Ebnf) : Prop :=
  ∀ p e, Derives table tokens x p e →
    p < e ∧ e ≤ tokens.length ∧ ∀ i, p < i → i < e → Touching tokens i

/-- Everything that becomes one token in a tree of the expression has the property. -/
def AllMerged (P : Ebnf → Prop) : Ebnf → Prop
  | merged _ x => P x
  | cat x y | alt x y => x.AllMerged P ∧ y.AllMerged P
  | opt x | many x | adjacent x => x.AllMerged P
  | _ => True

end Ebnf

variable {table : List (String × Ebnf)} {tokens : List Token} {x : Ebnf} {p q e : Nat}
  {t : Token} {ts ts' : List Token} {ns : List Node}

namespace Token.MadeOf

theorem of_getElem? (h : tokens[p]? = some t) : t.MadeOf tokens p (p + 1) where
  lt := Nat.lt_succ_self p
  le := (List.getElem?_eq_some_iff.mp h).1
  caret_eq := ⟨t, h, rfl⟩
  text_eq := by rw [extract_succ h, List.flatMap_singleton]
  touching := fun i hlt hlt' => by omega

/-- Tokens that touch are merged into a token that is made of them. -/
theorem of_merged (hlt : p < e) (hle : e ≤ tokens.length)
    (htouch : ∀ i, p < i → i < e → Touching tokens i) (k : TokenKind)
    (h : tokens.extract p e = t :: ts) : (Token.merged k t ts).MadeOf tokens p e where
  lt := hlt
  le := hle
  caret_eq := by
    have hp := List.getElem?_eq_getElem (Nat.lt_of_lt_of_le hlt hle)
    rw [← extract_append tokens (Nat.le_succ p) hlt, extract_succ hp] at h
    have ha : t = tokens[p] := (List.head_eq_of_cons_eq h).symm
    exact ⟨_, hp, by rw [Token.merged, ha]⟩
  text_eq := by
    rw [h, Token.merged, String.toList_join, List.flatMap_map]
  touching := htouch

end Token.MadeOf

namespace MadeInOrder

theorem single (h : t.MadeOf tokens p e) : MadeInOrder tokens p e [t] :=
  .cons (Nat.le_refl p) h (.nil (Nat.le_refl e))

theorem mono (h : MadeInOrder tokens q e ts) (hle : p ≤ q) : MadeInOrder tokens p e ts := by
  cases h with
  | nil hle' => exact .nil (Nat.le_trans hle hle')
  | cons hle' hmade h => exact .cons (Nat.le_trans hle hle') hmade h

theorem append (h : MadeInOrder tokens p q ts) (h' : MadeInOrder tokens q e ts') :
    MadeInOrder tokens p e (ts ++ ts') := by
  induction h with
  | nil hle => exact h'.mono hle
  | cons hle hmade _ ih => exact .cons hle hmade (ih h')

/-- Every one of the tokens is made of some. -/
theorem exists_madeOf (h : MadeInOrder tokens p e ts) :
    ∀ t ∈ ts, ∃ i j, p ≤ i ∧ t.MadeOf tokens i j := by
  induction h with
  | nil => exact List.forall_mem_nil _
  | cons hle hmade _ ih =>
      refine List.forall_mem_cons.mpr ⟨⟨_, _, hle, hmade⟩, fun t ht => ?_⟩
      obtain ⟨i, j, hle', hmade'⟩ := ih t ht
      exact ⟨i, j, Nat.le_trans (Nat.le_trans hle (Nat.le_of_lt hmade.lt)) hle', hmade'⟩

end MadeInOrder

/-! ### Trees -/

/-- **Made in order.** -/
theorem Spells.madeInOrder (htable : ∀ r ∈ table, r.2.AllMerged (Ebnf.Solid table tokens))
    (h : Spells table tokens x p e ns) (hx : x.AllMerged (Ebnf.Solid table tokens)) :
    MadeInOrder tokens p e (Node.tokensList ns) := by
  induction h with
  | text ht | matching ht | ofKind ht => exact .single (.of_getElem? ht)
  | @rule p e name x ns hl _ ih =>
      have hbody := htable _ (mem_of_lookup hl)
      have hns := ih hbody
      simpa [Node.tokensList, Node.tokens] using hns
  | nothing | optNone | manyNone | atEnd | butNot => exact .nil (Nat.le_refl _)
  | cat _ _ ih ih' =>
      rw [Node.tokensList_append]
      exact (ih hx.1).append (ih' hx.2)
  | altLeft _ ih => exact ih hx.1
  | altRight _ ih => exact ih hx.2
  | optSome _ ih | adjacent _ _ ih => exact ih hx
  | manyMore _ _ ih ih' =>
      rw [Node.tokensList_append]
      exact (ih hx).append (ih' hx)
  | @merged p e k x ns hs _ =>
      obtain ⟨hlt, hle, htouch⟩ := hx p e ⟨ns, hs⟩
      cases htokens : tokens.extract p e with
      | nil =>
          have hlen := congrArg List.length htokens
          rw [List.extract_eq_take_drop, List.length_take, List.length_drop,
            List.length_nil] at hlen
          omega
      | cons t ts => exact .single (.of_merged hlt hle htouch k htokens)
  | dropped hs => exact .nil (Derives.le ⟨_, hs⟩)

end Packrat
