import Packrat.Proofs.Calculator.Adjacency
import Packrat.Proofs.Calculator.Language
import Packrat.Proofs.Grammar.Merged
import Packrat.Proofs.Node.Spans

/-!
# Proofs — Calculator — Spans

Trees and the source that they were parsed from.  A token of a tree is a token of the source, or
made of the two stars of a power.  These touch, so nothing is between them in the source, and there
the merged token has exactly its own text, too.

**Spans** (`spans_map_to_source`): the span of a node reaches from the first character of its first
token in the source to the last character of its last token.  A leaf's span covers the text of the
leaf.  Within the span of a node, those of its children follow each other.
-/

namespace Packrat.Calculator

namespace Layout

variable {k : Caret} {cs : List Char} {ts us : List Token} {t t' : Token}
  {gaps : List (List Char)} {i j p e : Nat}

/-! ### Tokens in the source -/

/-- Where nothing is between tokens, only their texts are. -/
theorem before_append_run (hle : p ≤ j) (ht : ts[j]? = some t)
    (hempty : ∀ i, p < i → i ≤ j → gaps[i]? = some []) :
    before gaps ts p ++ (ts.extract p (j + 1)).flatMap (·.text.toList) =
      before gaps ts j ++ t.text.toList := by
  induction j, hle using Nat.le_induction generalizing t with
  | base => rw [extract_succ ht, List.flatMap_singleton]
  | succ j hle ih =>
      have hj : j < ts.length := Nat.lt_of_succ_lt (List.getElem?_eq_some_iff.mp ht).1
      have hrun := ih (List.getElem?_eq_getElem hj) fun i hlt hle =>
        hempty i hlt (Nat.le_succ_of_le hle)
      have hg := hempty (j + 1) (Nat.lt_succ_of_le hle) (Nat.le_refl _)
      rw [← extract_append ts (Nat.le_succ_of_le hle) (Nat.le_succ _), extract_succ ht,
        List.flatMap_append, ← List.append_assoc, hrun,
        before_succ (List.getElem?_eq_getElem hj) hg, List.append_nil, List.flatMap_singleton]

/-- A token that is made of tokens ends where the last of them does. -/
theorem exists_last_of_madeOf (h : Layout k cs ts gaps) (ht : t.MadeOf ts p e) :
    ∃ j b, e = j + 1 ∧ ts[j]? = some b ∧
      before gaps ts p ++ t.text.toList = before gaps ts j ++ b.text.toList := by
  obtain ⟨j, rfl⟩ := Nat.exists_eq_add_one_of_ne_zero (Nat.ne_zero_of_lt ht.lt)
  have hb := List.getElem?_eq_getElem ht.le
  refine ⟨j, _, rfl, hb, ?_⟩
  rw [ht.text_eq]
  refine before_append_run (Nat.le_of_lt_succ ht.lt) hb fun i hlt hle => ?_
  have htouch := ht.touching i hlt (Nat.lt_succ_of_le hle)
  exact ((h.touching_iff (Nat.one_le_of_lt hlt)).mp htouch).2

theorem caret_of_madeOf (h : Layout k cs ts gaps) (ht : t.MadeOf ts p e) :
    t.caret = k.after (before gaps ts p) := by
  obtain ⟨a, ha, hcaret⟩ := ht.caret_eq
  rw [hcaret, h.caret_eq p a ha]

theorem after_text_of_madeOf (h : Layout k cs ts gaps) (ht : t.MadeOf ts p e) :
    t.caret.after t.text.toList = t.endCaret := by
  have hline : '\n' ∉ t.text.toList := by
    intro hn
    rw [ht.text_eq, List.mem_flatMap] at hn
    obtain ⟨a, ha, hn⟩ := hn
    rw [List.extract_eq_take_drop] at ha
    exact (h.lexeme a (List.mem_of_mem_drop (List.mem_of_mem_take ha))).lineFeed_not_mem hn
  rw [Caret.after_of_not_mem hline, String.length_toList]
  rfl

theorem text_ne_empty_of_madeOf (h : Layout k cs ts gaps) (ht : t.MadeOf ts p e) :
    t.text ≠ "" := by
  intro he
  obtain ⟨a, ha, -⟩ := ht.caret_eq
  have htext := ht.text_eq
  rw [← extract_append ts (Nat.le_succ p) ht.lt, extract_succ ha, List.flatMap_append,
    List.flatMap_singleton, he] at htext
  exact (h.lexeme a (List.mem_of_getElem? ha)).ne_nil (List.append_eq_nil_iff.mp htext.symm).1

/-- A token that is made of tokens covers its text. -/
theorem covers_of_madeOf (h : Layout .origin cs ts gaps) (ht : t.MadeOf ts p e) :
    t.span.Covers cs t.text.toList := by
  obtain ⟨j, b, -, hb, hrun⟩ := h.exists_last_of_madeOf ht
  obtain ⟨post, hpost⟩ := h.before_append_prefix hb
  refine ⟨before gaps ts p, post, ?_, ?_, ?_⟩
  · rw [hrun, hpost]
  · rw [t.start_span, h.caret_of_madeOf ht]
  · rw [t.stop_span, ← h.after_text_of_madeOf ht, h.caret_of_madeOf ht, Caret.after_append]

/-- Tokens that are made of earlier tokens end before those that are made of later ones start. -/
theorem endCaret_le_of_madeOf (h : Layout k cs ts gaps) (ht : t.MadeOf ts p e)
    (ht' : t'.MadeOf ts i j) (hle : e ≤ i) : t.endCaret ≤ t'.caret := by
  obtain ⟨l, b, rfl, hb, hrun⟩ := h.exists_last_of_madeOf ht
  obtain ⟨a, ha, hcaret⟩ := ht'.caret_eq
  obtain ⟨hl, rfl⟩ := List.getElem?_eq_some_iff.mp hb
  obtain ⟨hi, rfl⟩ := List.getElem?_eq_some_iff.mp ha
  -- both stand after the same part of the text
  have hend : t.endCaret = ts[l].endCaret := by
    rw [← h.after_text_of_madeOf ht, h.caret_of_madeOf ht, ← Caret.after_append, hrun,
      Caret.after_append, ← h.caret_eq l _ hb, h.after_text (List.getElem_mem hl)]
  rw [hend, hcaret]
  exact List.pairwise_iff_getElem.mp h.pairwise_endCaret_le l i hl hi hle

theorem inOrder_of_madeInOrder (h : Layout k cs ts gaps) (hus : MadeInOrder ts p e us) :
    InOrder us := by
  induction hus with
  | nil => exact .nil
  | cons _ hmade hrest ih =>
      refine .cons (fun t' ht' => ?_) ih
      obtain ⟨i, j, hle, hmade'⟩ := hrest.exists_madeOf t' ht'
      exact h.endCaret_le_of_madeOf hmade hmade' hle

end Layout

/-! ### Trees of the calculator -/

section

variable {tokens : List Token} {p e : Nat} {root : String}

theorem solid_stars :
    Ebnf.Solid ebnf tokens (.cat (.text "*") (.adjacent (.text "*"))) := by
  intro p e hstars
  obtain ⟨q, hstar, hsecond⟩ := derives_cat_iff.mp hstars
  obtain ⟨rfl, -⟩ := derives_text_iff.mp hstar
  obtain ⟨htouch, hsecond⟩ := derives_adjacent_iff.mp hsecond
  obtain ⟨rfl, t, ht, -⟩ := derives_text_iff.mp hsecond
  refine ⟨by omega, (List.getElem?_eq_some_iff.mp ht).1, fun i hlt hlt' => ?_⟩
  obtain rfl : i = p + 1 := by omega
  exact htouch

/-- Nothing is merged but the two stars of a power. -/
theorem allMerged_ebnf {P : Ebnf → Prop} (h : P (.cat (.text "*") (.adjacent (.text "*")))) :
    ∀ r ∈ ebnf, r.2.AllMerged P := by
  simp [ebnf, chain, link, item, more, Ebnf.cats, Ebnf.alts, Ebnf.AllMerged, h]

/-- The tokens of a tree are made, one after the other, of those of the source. -/
theorem madeInOrder_of_parse (hroot : root ∈ ruleNames) {g : Grammar} (hg : grammar root = .ok g)
    {cfg : Config} {listening : Bool} {out : Output}
    (hout : (g.parse cfg listening tokens).result = .ok out) :
    MadeInOrder tokens 0 tokens.length out.root.tokens := by
  obtain ⟨w, hw, hmem⟩ := exists_workshop hroot
  cases (grammar_eq hroot).symm.trans hg
  have hs := spells_of_yields (hw.yields_of_parse hmem hout)
  have hmade := hs.madeInOrder (allMerged_ebnf solid_stars) trivial
  simpa [Node.tokensList] using hmade

end

/-- **Spans.** -/
theorem spans_map_to_source {text : String} {tokens : List Token} {root : String} {g : Grammar}
    {cfg : Config} {listening : Bool} {out : Output} {n : Node}
    (htokens : Lexer.tokens text = .ok tokens) (hroot : root ∈ ruleNames)
    (hg : grammar root = .ok g) (hout : (g.parse cfg listening tokens).result = .ok out)
    (hn : n ∈ out.root.preorder) (hne : n.tokens ≠ []) :
    ∃ span first last, n.span? = some span ∧ n.firstToken? = some first ∧
      n.lastToken? = some last ∧
      (first.text ≠ "" ∧ first.span.Covers text.toList first.text.toList ∧
        span.start = first.span.start) ∧
      (last.text ≠ "" ∧ last.span.Covers text.toList last.text.toList ∧
        span.stop = last.span.stop) ∧
      (n.children = [] → ∀ cs, span.Covers text.toList cs ↔ cs = n.text.toList) ∧
      (∀ c ∈ n.children, ∀ s, c.span? = some s → span.start ≤ s.start ∧ s.stop ≤ span.stop) ∧
      (n.children.filterMap Node.span?).Pairwise fun a b => a.stop ≤ b.start := by
  obtain ⟨gaps, hl⟩ := Lexer.exists_layout htokens
  have hmade := madeInOrder_of_parse hroot hg hout
  have hsub := Node.tokens_sublist_of_mem_preorder hn
  have horder : InOrder n.tokens := (hl.inOrder_of_madeInOrder hmade).sublist hsub
  have hcovers : ∀ t ∈ n.tokens, t.text ≠ "" ∧ t.span.Covers text.toList t.text.toList := by
    intro t ht
    obtain ⟨i, j, -, hij⟩ := hmade.exists_madeOf t (hsub.subset ht)
    exact ⟨hl.text_ne_empty_of_madeOf hij, hl.covers_of_madeOf hij⟩
  obtain ⟨span, first, last, hspan, hfirst, hlast, hstart, hstop⟩ :=
    Node.exists_span? horder hne
  obtain ⟨hfirst₁, hfirst₂⟩ := hcovers first (List.mem_of_head? hfirst)
  obtain ⟨hlast₁, hlast₂⟩ := hcovers last (List.mem_of_getLast? hlast)
  refine ⟨span, first, last, hspan, hfirst, hlast,
    ⟨hfirst₁, hfirst₂, hstart.trans first.start_span.symm⟩,
    ⟨hlast₁, hlast₂, hstop.trans last.stop_span.symm⟩, fun hleaf => ?_,
    fun c hc s hs => Node.span?_within horder hspan hc hs,
    Node.pairwise_spans (horder.sublist n.tokens_children_sublist)⟩
  obtain ⟨t, ht⟩ := Node.exists_token_of_leaf hleaf hne
  have htext : n.text = t.text := by simp [Node.text, ht]
  obtain rfl : t = first := by simpa [Node.firstToken?, ht] using hfirst
  obtain rfl : t = last := by simpa [Node.lastToken?, ht] using hlast
  have hspan₂ : span.Covers text.toList t.text.toList :=
    hfirst₂.congr (hstart.trans t.start_span.symm) (hstop.trans t.stop_span.symm)
  rw [htext]
  exact fun cs => ⟨fun hcs => hcs.unique hspan₂, fun hcs => hcs ▸ hspan₂⟩

/-- The two stars in a power that goes on on the next line. -/
theorem stars_cover_their_text :
    let text := "f(y)\n  ** x; // é\r\n"
    let tokens : List Token := [.ofText .identifier "f" ⟨1, 1⟩, .ofText .punctuator "(" ⟨1, 2⟩,
      .ofText .identifier "y" ⟨1, 3⟩, .ofText .punctuator ")" ⟨1, 4⟩,
      .ofText .punctuator "*" ⟨2, 3⟩, .ofText .punctuator "*" ⟨2, 4⟩,
      .ofText .identifier "x" ⟨2, 6⟩, .ofText .punctuator ";" ⟨2, 7⟩,
      .ofText .comment "// é\r" ⟨2, 9⟩]
    Lexer.tokens text = .ok tokens ∧ "program" ∈ ruleNames ∧
      ∃ g out n, grammar "program" = .ok g ∧ (g.parse ⟨false, 64⟩ false tokens).result = .ok out ∧
        n ∈ out.root.preorder ∧ n.tokens ≠ [] ∧ n.children = [] ∧ n.text = "**" ∧
        ∃ span, n.span? = some span ∧ ∀ cs, span.Covers text.toList cs ↔ cs = ['*', '*'] := by
  intro text tokens
  have htokens : Lexer.tokens text = .ok tokens := by
    subst text tokens
    rfl
  have hroot : "program" ∈ ruleNames := by decide
  have hfound : ((Grammar.parse ⟨⟨95, .rule "program"⟩, rules, ruleNames⟩ ⟨false, 64⟩ false
      tokens).result.toOption.bind fun out => out.root.preorder.find? fun n =>
        n.text = "**" && n.children.isEmpty && !n.tokens.isEmpty).isSome = true := by
    decide +kernel
  refine ⟨htokens, hroot, ?_⟩
  generalize hout : (Grammar.parse _ _ _ _).result = r at hfound
  obtain ⟨n, hn⟩ := Option.isSome_iff_exists.mp hfound
  cases r with
  | error => cases hn
  | ok out =>
      have hmem := List.mem_of_find?_eq_some hn
      have hstars : (n.text = "**" ∧ n.children = []) ∧ n.tokens ≠ [] := by
        simpa using List.find?_some hn
      obtain ⟨⟨htext, hleaf⟩, hne⟩ := hstars
      obtain ⟨span, -, -, hspan, -, -, -, -, hcovers, -⟩ :=
        spans_map_to_source htokens hroot (grammar_eq hroot) hout hmem hne
      refine ⟨_, out, n, grammar_eq hroot, hout, hmem, hne, hleaf, htext, span, hspan, ?_⟩
      rw [htext] at hcovers
      exact hcovers hleaf

end Packrat.Calculator
