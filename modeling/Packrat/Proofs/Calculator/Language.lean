import Packrat.Proofs.Calculator.Depth
import Packrat.Proofs.Calculator.Layout
import Packrat.Proofs.Calculator.Programs

/-!
# Proofs — Calculator — Language

The language of the calculator.  Soundness of the rules and completeness of the documented grammar
come together here, for tokens of the lexer and with a depth that no parse exceeds.

**Language** (`parses_documented_grammar`): the parses that succeed, from any rule, are those of the
tokens that can be derived from it, and then the tree is a derivation.
-/

namespace Packrat.Calculator

variable {tokens : List Token} {root : String}

/-- The tokens that the lexer gives. -/
theorem lexed_of_tokens {text : String} (h : Lexer.tokens text = .ok tokens) : Lexed tokens := by
  obtain ⟨gaps, hlayout⟩ := Lexer.exists_layout h
  exact hlayout.lexeme

/-- All tokens together are matched by any rule that they can be derived from: nothing follows them
that could be in the way. -/
theorem matches_root (hl : Lexed tokens) (hroot : root ∈ ruleNames)
    (h : Derives ebnf tokens (.rule root) 0 tokens.length) (i : Nat) :
    Matches rules tokens ⟨i, .rule root⟩ 0 tokens.length := by
  have hnone : ∀ t, tokens[tokens.length]? ≠ some t := by simp
  have hfollow : ∀ texts, NoneOf tokens tokens.length texts := fun _ =>
    .of_length_le (Nat.le_refl _)
  have hle : tokens.length ≤ 0 + tokens.length := Nat.le_add_left _ _
  have hle' : tokens.length ≤ 0 + (tokens.length + 1) := by omega
  obtain ⟨hexpression, hpower⟩ := complete_expression_and_power hl tokens.length
  have harguments := complete_arguments hl hexpression
  have hcall := complete_call harguments
  have hprimary := complete_primary hl hcall hexpression
  simp only [ruleNames, List.mem_cons, List.not_mem_nil, or_false] at hroot
  obtain rfl | rfl | rfl | rfl | rfl | rfl | rfl | rfl | rfl | rfl | rfl | rfl := hroot
  · exact complete_program hl h
  · exact complete_statement hl _ hle h trivial i
  · exact complete_assignment hl _ hle h (hfollow _) i
  · exact hexpression hle h (hfollow _) i
  · exact complete_term hl hpower hle h (hfollow _) i
  · refine hpower hle h ⟨hfollow _, fun hstars => ?_⟩ i
    obtain ⟨t, ht, -⟩ := hstars.first
    exact hnone t ht
  · exact complete_unary hl hprimary hle' h (hfollow _) i
  · exact hprimary hle' h (hfollow _) i
  · exact hcall hle' h trivial i
  · exact harguments hle h (fun t ht => absurd ht (hnone t)) i
  · obtain ⟨he, t, ht, hk, hn⟩ := derives_name h
    rw [he]
    exact matches_name ht hk hn
  · obtain ⟨he, t, ht, hk⟩ := derives_number hl h
    rw [he]
    exact matches_number ht hk

/-- The tree that a rule makes is derived from it. -/
theorem spells_of_yields {i p e : Nat} {n : Node} {tr : List (Trivia Token)}
    (h : Yields rules tokens ⟨i, .rule root⟩ p (.matched n tr e)) :
    Spells ebnf tokens (.rule root) p e [n] := by
  have hs := h.spelled tabled_ebnf .rule
  cases h with
  | rule => exact hs

/-- **Language.** -/
theorem parses_documented_grammar {text : String} (htokens : Lexer.tokens text = .ok tokens)
    (hroot : root ∈ ruleNames) {cfg : Config} (hd : 5 * tokens.length + 9 ≤ cfg.maxDepth)
    (listening : Bool) :
    ∃ g, grammar root = .ok g ∧
      ((∃ out, (g.parse cfg listening tokens).result = .ok out) ↔
        Derives ebnf tokens (.rule root) 0 tokens.length) ∧
      ∀ out, (g.parse cfg listening tokens).result = .ok out →
        Spells ebnf tokens (.rule root) 0 tokens.length [out.root] ∧
        ∀ n ∈ out.root.preorder, n.Justified ebnf tokens := by
  have hl := lexed_of_tokens htokens
  obtain ⟨w, hw, hg, hc⟩ := exists_workshop_not_aborted hroot tokens hd listening
  refine ⟨_, grammar_eq hroot, ⟨?derived, ?parsed⟩, ?tree⟩
  case derived =>
    rintro ⟨out, hout⟩
    exact ⟨_, spells_of_yields (hw.yields_of_parse hg hout)⟩
  case parsed =>
    intro hderives
    obtain ⟨n, tr, hy⟩ := matches_root hl hroot hderives 95
    exact ⟨_, hw.parse_of_yields hg hc hy⟩
  case tree =>
    intro out hout
    have hs := spells_of_yields (hw.yields_of_parse hg hout)
    refine ⟨hs, fun n hn => hs.justified n ?_⟩
    simpa [Node.preorderList] using hn

/-- An assignment with a call and `**` in it, a stray semicolon and a comment. -/
theorem assignment_and_comment_parse :
    let text := "let a = f(1.5) ** -2;; // end"
    let tokens : List Token := [.ofText .identifier "let" ⟨1, 1⟩, .ofText .identifier "a" ⟨1, 5⟩,
      .ofText .punctuator "=" ⟨1, 7⟩, .ofText .identifier "f" ⟨1, 9⟩,
      .ofText .punctuator "(" ⟨1, 10⟩, .ofText number "1.5" ⟨1, 11⟩,
      .ofText .punctuator ")" ⟨1, 14⟩, .ofText .punctuator "*" ⟨1, 16⟩,
      .ofText .punctuator "*" ⟨1, 17⟩, .ofText .punctuator "-" ⟨1, 19⟩, .ofText number "2" ⟨1, 20⟩,
      .ofText .punctuator ";" ⟨1, 21⟩, .ofText .punctuator ";" ⟨1, 22⟩,
      .ofText .comment "// end" ⟨1, 24⟩]
    Lexer.tokens text = .ok tokens ∧ "program" ∈ ruleNames ∧
      5 * tokens.length + 9 ≤ (⟨false, 256⟩ : Config).maxDepth ∧
      ∃ g, grammar "program" = .ok g ∧ Derives ebnf tokens (.rule "program") 0 tokens.length ∧
        ∃ out, (g.parse ⟨false, 256⟩ false tokens).result = .ok out ∧
          Spells ebnf tokens (.rule "program") 0 tokens.length [out.root] := by
  intro text tokens
  have htokens : Lexer.tokens text = .ok tokens := by
    subst text tokens
    rfl
  have hroot : "program" ∈ ruleNames := by decide
  have hd : 5 * tokens.length + 9 ≤ (⟨false, 256⟩ : Config).maxDepth := by decide
  have hok : (Grammar.parse ⟨⟨95, .rule "program"⟩, rules, ruleNames⟩ ⟨false, 256⟩ false
      tokens).result.toBool = true := by
    decide +kernel
  obtain ⟨g, hg, hiff, htree⟩ := parses_documented_grammar htokens hroot hd false
  cases (grammar_eq hroot).symm.trans hg
  refine ⟨htokens, hroot, hd, _, hg, ?_⟩
  generalize (Grammar.parse _ _ _ _).result = r at hok hiff htree
  cases r with
  | error => cases hok
  | ok out => exact ⟨hiff.mp ⟨out, rfl⟩, out, rfl, (htree out rfl).1⟩

end Packrat.Calculator
