import Packrat.Proofs.Calculator.Aligned

/-!
# Proofs — Calculator — Reread

Printing and reading again.  The text of a tree has its tokens with single spaces between them, so
layout, comments and stray semicolons are lost.

**Rereading** (`text_parses_alike`): as long as there are no calls in the tree, its text is parsed
from the same rule again, with the same settings, and the new tree is the old one up to layout.

In a tree of a program the statements are aligned with those that are printed; in any other tree all
the tokens make one window.
-/

namespace Packrat.Calculator

open Attempt Lanes

variable {F : Matcher → Prop} {cfg : Config} {tokens tokens' us : List Token}
  {tr : List (Trivia Token)} {n : Node} {s s' : State} {q p e i depth : Nat}

/-! ### Runs of whole programs -/

section

variable (hF : Family rules F)

include hF

theorem family_items : F ⟨7, .zeroOrMore (itemRule 0)⟩ ∧ F (itemRule 0) ∧ F ⟨8, .endOfInput⟩ := by
  have hbody : F (programRule 0) := hF.body (show rules.lookup "program" = _ from rfl)
  have hitems : F ⟨7, .zeroOrMore (itemRule 0)⟩ := hF.part hbody List.mem_cons_self
  exact ⟨hitems, hF.part hitems (List.mem_singleton_self _),
    hF.part hbody (List.mem_cons_of_mem _ List.mem_cons_self)⟩

/-- If the items of a program are tried without an abort, so are the printed statements. -/
theorem cause?_items (h : Aligned tokens tokens' 0 0) (hl : Lexed tokens) (hl' : Lexed tokens')
    (hs : s.Begun tokens) (hs' : s'.Begun tokens')
    (hc : cause? (attempt cfg (enterRule cfg rules depth) ⟨7, .zeroOrMore (itemRule 0)⟩ s) = none) :
    cause? (attempt cfg (enterRule cfg rules depth) ⟨7, .zeroOrMore (itemRule 0)⟩ s') = none := by
  obtain ⟨hitems, hitem, -⟩ := family_items hF
  obtain ⟨l, t, ht, -, hall⟩ := exists_treads hF hitems rfl hs.truthful
    (hs.remembered?_eq_none cfg _) depth
  obtain ⟨l', t', ht', hcourse', -⟩ := exists_treads hF hitems rfl hs'.truthful
    (hs'.remembered?_eq_none cfg _) depth
  rw [hc] at ht
  rw [hs.cursor_eq] at hall
  rw [hs'.cursor_eq] at hcourse'
  exact h.cause_eq_none hF hitem hl hl' (.ready (hs.announce _ _).ready (hs'.announce _ _).ready)
    ht (hall hc) ht' hcourse'

/-- And so is the body of the rule. -/
theorem cause?_programRule (h : Aligned tokens tokens' 0 0) (hl : Lexed tokens)
    (hl' : Lexed tokens')
    (hy : Yields rules tokens ⟨7, .zeroOrMore (itemRule 0)⟩ 0 (.matched n tr e))
    (hs : s.Begun tokens) (hs' : s'.Begun tokens')
    (hc : cause? (attempt cfg (enterRule cfg rules depth) (programRule 0) s) = none) :
    cause? (attempt cfg (enterRule cfg rules depth) (programRule 0) s') = none := by
  have hbody : F (programRule 0) := hF.body (show rules.lookup "program" = _ from rfl)
  obtain ⟨hitems, -, hend⟩ := family_items hF
  obtain ⟨l, t, ht, -, hall⟩ := exists_treads hF hbody rfl hs.truthful
    (hs.remembered?_eq_none cfg _) depth
  obtain ⟨l', t', ht', hcourse', -⟩ := exists_treads hF hbody rfl hs'.truthful
    (hs'.remembered?_eq_none cfg _) depth
  obtain ⟨l₂, rfl⟩ := exists_first .sequence (hall hc)
  rw [hc] at ht
  obtain ⟨-, hn, -⟩ := ht.of_cons
  have hn' := cause?_items hF h hl hl' (hs.announce _ _) (hs'.announce (programRule 0) .entered) hn
  obtain hc' | ⟨l₂', rfl, hrest⟩ := exists_after_first .sequence ht' hcourse' hn'
  · exact hc'
  · -- only the end of the input is left
    obtain ⟨n', tr', -, hy'⟩ := h.exists_yields hl hl' hy
    rw [hs'.cursor_eq] at hcourse'
    have hcourse := hcourse'.tail (.sequence hy')
    have htells := tells_member hF tokens' cfg depth hitems
    refine hrest.cause_eq_none_of_leaves hF (fun x hx => ?_)
      (htells (hs'.announce (programRule 0) .entered).truthful).truthful_end
    rw [List.eq_of_mem_singleton (hcourse.tries x hx).mem_parts]
    exact ⟨hend, rfl, rfl⟩

end

/-! ### Parses of what is printed -/

/-- In the second list the root is matched with the node, up to layout, and its attempt is not
aborted if that in the first is not. -/
structure Repeats (F : Matcher → Prop) (tokens tokens' : List Token) (root : String) (n : Node) :
    Prop where
  yields : ∃ n' tr', n.bare = n'.bare ∧
    Yields rules tokens' ⟨95, .rule root⟩ 0 (.matched n' tr' tokens'.length)
  not_aborted : ∀ (cfg : Config) (depth : Nat) (listening : Bool),
    cause? (attempt cfg (enterRule cfg rules depth) ⟨95, .rule root⟩
      (.start tokens listening)) = none →
    cause? (attempt cfg (enterRule cfg rules depth) ⟨95, .rule root⟩
      (.start tokens' listening)) = none

theorem extract_all (l : List Token) : l.extract 0 l.length = l := by
  rw [List.extract_eq_take_drop, List.drop_zero, Nat.sub_zero, List.take_length]

/-- All the tokens of a tree make a window where they are printed. -/
theorem window_of_reads (hl : Lexed tokens) (hl' : Lexed tokens') (hus : us.IsChain Follows)
    (h : Reads tokens us) (h' : Reads tokens' us) :
    Window tokens tokens' 0 0 tokens.length ∧ tokens'.length = tokens.length := by
  have hsame := h.map_bare_eq h'
  have hlength := congrArg List.length hsame
  rw [List.length_map, List.length_map] at hlength
  refine ⟨?_, hlength.symm⟩
  have hstops : StopsAt tokens (0 + tokens.length) := fun t ht => by simp at ht
  refine window_of_extract (Nat.zero_le _) (Nat.le_refl _) (Nat.zero_le _) (Nat.le_refl _) ?_ ?_ ?_
    hstops (.inr ⟨(Nat.zero_add _).symm, Nat.le_refl _, Nat.le_refl _⟩)
  all_goals simp only [extract_all]
  · exact hsame
  · exact h.isChain_joint hus hl
  · exact h'.isChain_joint hus hl'

/-- What is made by a rule for a part of programs is made again. -/
theorem repeats_of_ne_program (hF : Family rules F) {root : String} (hroot : F ⟨95, .rule root⟩)
    (hne : root ≠ "program") (hl : Lexed tokens) (hl' : Lexed tokens')
    (hy : Yields rules tokens ⟨95, .rule root⟩ 0 (.matched n tr tokens.length))
    (hcalls : CallFree [n]) (hreads : Reads tokens' n.tokens) :
    Repeats F tokens tokens' root n := by
  obtain ⟨hsource, hframed⟩ := reads_and_framed hl hne (spells_of_yields hy) hcalls
  rw [extract_all] at hsource
  obtain ⟨hw, hlength⟩ := window_of_reads hl hl' hframed.follows hsource hreads
  have hproper : proper ⟨95, .rule root⟩ = true := by
    simp [proper, Matcher.inside, Matcher.insideShape, isProper, hne]
  have hadmits : Admits tokens 0 tokens.length ⟨95, .rule root⟩ 0 :=
    ⟨Nat.zero_le _, .inl ⟨hproper, guarded_of_not_adjacent rfl⟩⟩
  refine ⟨?_, fun cfg depth listening hc => ?_⟩
  · rw [← Nat.zero_add tokens.length] at hy
    rw [hlength, ← Nat.zero_add tokens.length]
    exact hw.copied.matched hadmits hy
  · have hgoes : (lanes tokens tokens' 0 0 tokens.length).Goes F cfg _ _ 0 :=
      goes_attempt (hw.copied.even fun _ _ => trivial) hF depth _ hroot 0 hadmits
    exact (hgoes (level_of_ready (State.ready_start listening) (State.ready_start listening) _) rfl
      rfl).twin.none_iff.mp hc

/-- The end of the input adds nothing to the tree. -/
theorem spliced_before_end (n : Node) :
    (Node.group [n, .group [.empty, .empty]]).spliced = n.spliced := by
  rw [Node.spliced_group_pair]
  exact List.append_nil _

/-- The tree of a program has what its items were matched with. -/
theorem exists_items (hy : Yields rules tokens ⟨i, .rule "program"⟩ p (.matched n tr e)) :
    ∃ n₁ tr₁, n = ⟨some (.rule "program"), none, n₁.spliced⟩ ∧
      Yields rules tokens ⟨7, .zeroOrMore (itemRule 0)⟩ p (.matched n₁ tr₁ e) := by
  have hbody : rules.lookup "program" = some (programRule 0) := rfl
  cases hy with
  | rule hlookup hy =>
      cases hlookup.symm.trans hbody
      cases hy with
      | @sequence_cons _ _ _ _ n₁ _ _ _ _ _ hitems hrest =>
          cases hrest with
          | sequence_cons hend hnil =>
              cases hend
              cases hnil
              exact ⟨n₁, _, by rw [← spliced_before_end n₁], hitems⟩

theorem yields_program (hy : Yields rules tokens ⟨7, .zeroOrMore (itemRule 0)⟩ p (.matched n tr e))
    (he : tokens.length ≤ e) : ∃ tr', Yields rules tokens ⟨i, .rule "program"⟩ p
      (.matched ⟨some (.rule "program"), none, n.spliced⟩ tr' e) := by
  rw [← spliced_before_end n]
  exact ⟨_, .rule (show rules.lookup "program" = some (programRule 0) from rfl)
    (.sequence_cons hy (.sequence_cons (.endOfInput he) .sequence_nil))⟩

/-- In a program the statements make windows. -/
theorem repeats_program (hF : Family rules F) (hl : Lexed tokens) (hl' : Lexed tokens')
    (hy : Yields rules tokens ⟨95, .rule "program"⟩ 0 (.matched n tr tokens.length))
    (hcalls : CallFree [n]) (hreads : Reads tokens' n.tokens) :
    Repeats F tokens tokens' "program" n := by
  obtain ⟨n₁, tr₁, rfl, hitems⟩ := exists_items hy
  have ha := exists_aligned hl hl' hitems hcalls.of_children (Nat.zero_le _) hreads
  refine ⟨?_, fun cfg depth listening hc => ?_⟩
  · obtain ⟨n₂, tr₂, hn₂, hitems'⟩ := ha.exists_yields hl hl' hitems
    obtain ⟨tr', hy'⟩ := yields_program hitems' (Nat.le_refl _)
    exact ⟨_, tr', Node.bare_rule _ hn₂, hy'⟩
  · have hbegun : ∀ tokens, (State.start tokens listening).Begun tokens := fun _ => .start listening
    have hfresh := fun tokens => (hbegun tokens).remembered?_eq_none cfg ⟨95, .rule "program"⟩
    have hbody : rules.lookup "program" = some (programRule 0) := rfl
    cases depth with
    | zero =>
        obtain ⟨c, hc'⟩ := exists_cause?_of_stuck (.inl rfl) (hfresh tokens)
        cases hc.symm.trans hc'
    | succ depth =>
        obtain ⟨s, hp, hs, hcause⟩ := cause?_attempt_rule depth hbody (hfresh tokens)
        obtain ⟨s', hp', hs', hcause'⟩ := cause?_attempt_rule depth hbody (hfresh tokens')
        rw [hcause] at hc
        rw [hcause']
        exact cause?_programRule hF ha hl hl' hitems ((hbegun _).of_alike hs hp)
          ((hbegun _).of_alike hs' hp') hc

theorem repeats_root (hF : Family rules F) {root : String} (hroot : F ⟨95, .rule root⟩)
    (hl : Lexed tokens) (hl' : Lexed tokens')
    (hy : Yields rules tokens ⟨95, .rule root⟩ 0 (.matched n tr tokens.length))
    (hcalls : CallFree [n]) (hreads : Reads tokens' n.tokens) :
    Repeats F tokens tokens' root n := by
  by_cases hne : root = "program"
  · subst hne
    exact repeats_program hF hl hl' hy hcalls hreads
  · exact repeats_of_ne_program hF hroot hne hl hl' hy hcalls hreads

/-! ### The tokens of trees -/

theorem exists_source_of_ne_program (hl : Lexed tokens) {root : String} (hne : root ≠ "program")
    (hs : Spells ebnf tokens (.rule root) q e [n]) (hcalls : CallFree [n]) :
    ∃ rs, (∀ r ∈ rs, r ∈ tokens ∧ r.kind ≠ .comment) ∧ Reads rs n.tokens := by
  obtain ⟨hreads, hframed⟩ := reads_and_framed hl hne hs hcalls
  have hcomment := hreads.kind_ne_comment hframed.classed
  refine ⟨tokens.extract q e, fun r hr => ⟨?_, hcomment r hr⟩, hreads⟩
  rw [List.extract_eq_take_drop] at hr
  exact List.mem_of_mem_drop (List.mem_of_mem_take hr)

theorem exists_source_of_items (hl : Lexed tokens)
    (hy : Yields rules tokens ⟨i, .zeroOrMore (itemRule 0)⟩ q (.matched n tr e))
    (hcalls : CallFree n.spliced) :
    ∃ rs, (∀ r ∈ rs, r ∈ tokens ∧ r.kind ≠ .comment) ∧ Reads rs (Node.tokensList n.spliced) := by
  generalize hm : (⟨i, .zeroOrMore (itemRule 0)⟩ : Matcher) = m at hy
  generalize ho : Answer.matched n tr e = o at hy
  induction hy generalizing n tr with
  | zeroOrMore_none =>
      cases ho
      exact ⟨[], List.forall_mem_nil _, .nil⟩
  | zeroOrMore_last hy =>
      cases hm
      exact absurd (item_cases hl hy).1 (Nat.lt_irrefl _)
  | zeroOrMore_more hy _ _ _ ih =>
      cases hm
      cases ho
      rw [Node.spliced_group_pair] at hcalls ⊢
      obtain ⟨hcalls, hcalls'⟩ := CallFree.append_iff.mp hcalls
      obtain ⟨rs', hrs', hreads'⟩ := ih hcalls' rfl rfl
      obtain ⟨-, ⟨rfl, -⟩ | ⟨-, hs⟩⟩ := item_cases hl hy
      · exact ⟨rs', hrs', hreads'⟩
      · have hn := spliced_of_rule hs
        rw [hn] at hcalls
        obtain ⟨rs, hrs, hreads⟩ :=
          exists_source_of_ne_program hl (by decide) (spells_of_yields hs) hcalls
        rw [Node.tokensList_append, hn, Node.tokensList, Node.tokensList, List.append_nil]
        exact ⟨rs ++ rs', List.forall_mem_append.mpr ⟨hrs, hrs'⟩, hreads.append hreads'⟩
  | _ => cases hm

/-- The tokens of a tree without calls are made of tokens that were parsed, none of which is a
comment. -/
theorem exists_source (hl : Lexed tokens) {root : String}
    (hy : Yields rules tokens ⟨95, .rule root⟩ 0 (.matched n tr tokens.length))
    (hcalls : CallFree [n]) :
    ∃ rs, (∀ r ∈ rs, r ∈ tokens ∧ r.kind ≠ .comment) ∧ Reads rs n.tokens := by
  by_cases hne : root = "program"
  · subst hne
    obtain ⟨n₁, tr₁, rfl, hitems⟩ := exists_items hy
    exact exists_source_of_items hl hitems hcalls.of_children
  · exact exists_source_of_ne_program hl hne (spells_of_yields hy) hcalls

/-- **Rereading.** -/
theorem text_parses_alike {text root : String} (htokens : Lexer.tokens text = .ok tokens)
    (hroot : root ∈ ruleNames) :
    ∃ g, grammar root = .ok g ∧ ∀ cfg listening out,
      (g.parse cfg listening tokens).result = .ok out →
      (∀ n ∈ out.root.preorder, n.kind ≠ some (.rule "call")) →
      ∃ tokens', Lexer.tokens out.root.text = .ok tokens' ∧
        ∃ out', (g.parse cfg listening tokens').result = .ok out' ∧
          out'.root.bare = out.root.bare := by
  obtain ⟨w, hw, hg⟩ := exists_workshop hroot
  refine ⟨_, grammar_eq hroot, fun cfg listening out hout hcalls => ?_⟩
  have hl := lexed_of_tokens htokens
  have hy := hw.yields_of_parse hg hout
  have hcalls : CallFree [out.root] := by simpa [CallFree, Node.preorderList] using hcalls
  obtain ⟨rs, hrs, hsource⟩ := exists_source hl hy hcalls
  obtain ⟨tokens', htokens', hreads⟩ := exists_tokens_of_reads hsource fun r hr =>
    ⟨((tokens_eq_iff.mp htokens).legible rfl) r (hrs r hr).1, (hrs r hr).2⟩
  have hrepeats := repeats_root (hw.family hg) (.root hg) hl (lexed_of_tokens htokens') hy hcalls
    hreads
  obtain ⟨n', tr', hbare, hy'⟩ := hrepeats.yields
  have hc := hw.cause?_root_eq_none hg fun p limit h => by cases hout.symm.trans h
  have hc := hrepeats.not_aborted cfg cfg.maxDepth listening hc
  exact ⟨tokens', htokens', _, hw.parse_of_yields hg hc hy', hbare.symm⟩

/-- An assignment with `**` in it, a stray semicolon and a comment.  The stray semicolon and the
comment are not printed. -/
theorem assignment_without_layout_reread :
    let text := "let a=1.5**-2;; // end"
    let tokens : List Token := [.ofText .identifier "let" ⟨1, 1⟩, .ofText .identifier "a" ⟨1, 5⟩,
      .ofText .punctuator "=" ⟨1, 6⟩, .ofText number "1.5" ⟨1, 7⟩, .ofText .punctuator "*" ⟨1, 10⟩,
      .ofText .punctuator "*" ⟨1, 11⟩, .ofText .punctuator "-" ⟨1, 12⟩, .ofText number "2" ⟨1, 13⟩,
      .ofText .punctuator ";" ⟨1, 14⟩, .ofText .punctuator ";" ⟨1, 15⟩,
      .ofText .comment "// end" ⟨1, 17⟩]
    Lexer.tokens text = .ok tokens ∧ "program" ∈ ruleNames ∧
      ∃ g, grammar "program" = .ok g ∧ ∃ out, (g.parse ⟨false, 256⟩ false tokens).result = .ok out ∧
        (∀ n ∈ out.root.preorder, n.kind ≠ some (.rule "call")) ∧
        out.root.text = "let a = 1.5 ** - 2 ;" ∧
        ∃ tokens', Lexer.tokens out.root.text = .ok tokens' ∧
          ∃ out', (g.parse ⟨false, 256⟩ false tokens').result = .ok out' ∧
            out'.root.bare = out.root.bare := by
  intro text tokens
  have htokens : Lexer.tokens text = .ok tokens := by
    subst text tokens
    rfl
  have hroot : "program" ∈ ruleNames := by decide
  have hout : ((Grammar.parse ⟨⟨95, .rule "program"⟩, rules, ruleNames⟩ ⟨false, 256⟩ false
      tokens).result.toOption.map fun out => (out.root.text, out.root.preorder.all fun n =>
        n.kind ≠ some (.rule "call"))) = some ("let a = 1.5 ** - 2 ;", true) := by
    decide +kernel
  obtain ⟨g, hg, hreread⟩ := text_parses_alike htokens hroot
  cases (grammar_eq hroot).symm.trans hg
  have hreread := hreread ⟨false, 256⟩ false
  refine ⟨htokens, hroot, _, hg, ?_⟩
  generalize (Grammar.parse _ _ _ tokens).result = r at hout hreread ⊢
  cases r with
  | error => cases hout
  | ok out =>
      simp only [Except.toOption, Option.map_some, Option.some.injEq, Prod.mk.injEq,
        List.all_eq_true, decide_eq_true_eq] at hout
      exact ⟨out, rfl, hout.2, hout.1, hreread out rfl hout.2⟩

end Packrat.Calculator
