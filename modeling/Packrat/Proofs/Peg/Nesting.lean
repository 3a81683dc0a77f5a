import Packrat.Proofs.Peg.Verdict

/-!
# Proofs — Peg — Nesting

How deeply the rules of a tree are nested.  The nodes that one comes by on the way down from the
root are a `Descent`; a tree *nests within* `d` if no descent comes by more than `d` nodes of rules.

**Nesting** (`parse_nests_within`): without a memo the rules of a tree are nested no deeper than
rules may be, since everything in the tree was tried where it stands.  With a memo this takes that
parsing without one would not exceed the depth.

What is remembered was tried somewhere else, maybe where fewer rules had been entered, and attaching
it enters none.  So with a memo the rules of a tree may be nested deeper
(`replayed_rule_nests_deeper`).
-/

namespace Packrat

/-! ### Descents -/

namespace Node

/-- Is the node made by a rule? -/
def ofRule (n : Node) : Bool :=
  match n.kind with
  | some (.rule _) => true
  | _ => false

/-- A way down from the node: the node, one of its children, one of that one's, and so on. -/
inductive Descent : Node → List Node → Prop where
  | stop {n} : Descent n [n]
  | down {n c path} : c ∈ n.children → Descent c path → Descent n (n :: path)

/-- No way down comes by more than `d` nodes made by rules. -/
def NestsWithin (d : Nat) (n : Node) : Prop :=
  ∀ path, n.Descent path → path.countP ofRule ≤ d

variable {n : Node} {ns : List Node} {d : Nat}

/-- What is above a child counts for it, too. -/
theorem NestsWithin.child {c : Node} (h : n.NestsWithin d) (hc : c ∈ n.children) :
    c.NestsWithin d := by
  intro path hp
  have hle := h (n :: path) (.down hc hp)
  rw [List.countP_cons] at hle
  omega

theorem NestsWithin.spliced (h : n.NestsWithin d) : ∀ c ∈ n.spliced, c.NestsWithin d := by
  intro c hc
  simp only [Node.spliced] at hc
  split at hc
  · exact h.child hc
  · exact List.eq_of_mem_singleton hc ▸ h

/-- A node that no rule made nests as its children do. -/
theorem nestsWithin_of_children (hn : n.ofRule = false)
    (h : ∀ c ∈ n.children, c.NestsWithin d) : n.NestsWithin d := by
  intro path hp
  cases hp with
  | stop => simp [hn]
  | down hc hp =>
      rw [List.countP_cons_of_neg (by simp [hn])]
      exact h _ hc _ hp

theorem nestsWithin_of_no_children (hn : n.ofRule = false) (hc : n.children = []) :
    n.NestsWithin d :=
  nestsWithin_of_children hn fun c h => by
    rw [hc] at h
    cases h

/-- A node made by a rule nests one deeper. -/
theorem nestsWithin_rule {name : String} {t : Option Token}
    (h : ∀ c ∈ ns, c.NestsWithin d) : NestsWithin (d + 1) ⟨some (.rule name), t, ns⟩ := by
  intro path hp
  cases hp with
  | stop => exact Nat.succ_le_succ (Nat.zero_le d)
  | down hc hp =>
      rw [List.countP_cons_of_pos rfl]
      exact Nat.succ_le_succ (h _ hc _ hp)

theorem nestsWithin_group (h : ∀ n ∈ ns, n.NestsWithin d) : (group ns).NestsWithin d := by
  refine nestsWithin_of_children rfl fun c hc => ?_
  obtain ⟨n, hn, hc⟩ := List.mem_flatMap.mp hc
  exact (h n hn).spliced c hc

theorem nestsWithin_pair {n' : Node} (h : n.NestsWithin d) (h' : n'.NestsWithin d) :
    (group [n, n']).NestsWithin d :=
  nestsWithin_group (List.forall_mem_cons.mpr ⟨h, List.forall_mem_singleton.mpr h'⟩)

theorem nestsWithin_ofMerged (kind : TokenKind) (ts : List Token) :
    (ofMerged kind ts).NestsWithin d := by
  cases ts with
  | nil => exact nestsWithin_of_no_children rfl rfl
  | cons t ts => exact nestsWithin_of_no_children rfl rfl

end Node

/-! ### Trees of matchers -/

/-- The tree of an answer, if it has one, nests within `d`. -/
def Answer.NestsWithin (d : Nat) : Answer → Prop
  | .matched n _ _ => n.NestsWithin d
  | .failed _ => True

/-- What is yielded nests no deeper than rules are entered on the way.  By induction on the
derivation, where what is visited bounds each part. -/
theorem Yields.nestsWithin {rules : List (String × Matcher)} {tokens : List Token} {m : Matcher}
    {p d : Nat} {o : Answer} (h : Yields rules tokens m p o) (hb : Bounded rules tokens d m p) :
    o.NestsWithin d := by
  induction h generalizing d with
  | literal | pattern | ofKind | sequence_nil | optional_none | zeroOrMore_none | next | nextNot
  | endOfInput | nothing | trivia =>
      exact Node.nestsWithin_of_no_children rfl rfl
  | literal_fails | pattern_fails | ofKind_fails | sequence_head_fails | sequence_tail_fails
  | firstOf_nil | firstOf_fails | oneOrMore_fails | next_fails | nextNot_fails | endOfInput_fails
  | token_fails | trivia_fails | adjacent_fails | rule_fails =>
      trivial
  | token => exact Node.nestsWithin_ofMerged _ _
  | sequence_cons hy _ ih ih' =>
      exact Node.nestsWithin_pair (ih (hb.of_tries (.first .sequence)))
        (ih' (hb.of_goesOn (.sequence hy)))
  | firstOf_head _ ih => exact ih (hb.of_tries (.first .firstOf))
  | firstOf_tail hy _ _ ih' => exact ih' (hb.of_goesOn (.firstOf hy))
  | optional _ ih => exact ih (hb.of_tries (.first .optional))
  | zeroOrMore_last _ ih =>
      exact Node.nestsWithin_group (List.forall_mem_singleton.mpr
        (ih (hb.of_tries (.first .zeroOrMore))))
  | zeroOrMore_more hy hne _ ih ih' =>
      exact Node.nestsWithin_pair (ih (hb.of_tries (.first .zeroOrMore)))
        (ih' (hb.of_goesOn (.zeroOrMore hy hne)))
  | oneOrMore_last _ ih =>
      exact Node.nestsWithin_group (List.forall_mem_singleton.mpr
        (ih (hb.of_tries (.first .oneOrMore))))
  | oneOrMore_more hy hne _ ih ih' =>
      exact Node.nestsWithin_pair (ih (hb.of_tries (.first .oneOrMore)))
        (ih' (hb.of_goesOn (.oneOrMore hy hne)))
  | adjacent ht _ ih => exact ih (hb.of_tries (.first (.adjacent ht)))
  | rule hl _ ih =>
      cases d with
      | zero => exact absurd hb (not_bounded_zero_of_lookup hl)
      | succ d =>
          have hn : Node.NestsWithin d _ := ih (hb.of_body hl)
          exact Node.nestsWithin_rule hn.spliced

/-! ### Trees of parses -/

open Attempt

/-- **Nesting.** -/
theorem parse_nests_within {w : Workshop} (hw : w.Reachable) {g : Grammar} (hg : g ∈ w.grammars)
    (memoize : Bool) (maxDepth : Nat) (listening : Bool) (tokens : List Token) {out : Output}
    (h : (g.parse ⟨memoize, maxDepth⟩ listening tokens).result = .ok out)
    (hplain : memoize = true → ∀ p limit, (g.parse ⟨false, maxDepth⟩ listening tokens).result ≠
      .error (.aborted (.depthExceeded p limit)))
    {path : List Node} (hp : out.root.Descent path) : path.countP Node.ofRule ≤ maxDepth := by
  have hy := hw.yields_of_parse hg h
  -- parsing without a memo is not aborted, so it enters all rules that are visited
  have hc : cause? (attemptWith ⟨false, maxDepth⟩ g.rules g.root (.start tokens listening)) =
      none := by
    apply hw.cause?_root_eq_none hg
    cases memoize with
    | false =>
        rw [h]
        nofun
    | true => exact hplain rfl
  have hb : Bounded g.rules tokens maxDepth g.root 0 :=
    bounded_of_plain ⟨false, maxDepth⟩ rfl maxDepth g.root (.start tokens listening) rfl hc
  exact hy.nestsWithin hb path hp

/-! ### A rule that is looked for before it is nested -/

/-- `outer` looks for a `leaf` and then is an `inner`, which is that same `leaf`. -/
def leafGrammar : Grammar :=
  let leaf : Matcher := ⟨0, .rule "leaf"⟩
  let outer : Matcher := ⟨3, .sequence [⟨1, .next leaf⟩, ⟨2, .rule "inner"⟩]⟩
  ⟨⟨8, .rule "outer"⟩, [("outer", outer), ("inner", leaf), ("leaf", ⟨6, .literal "x"⟩)],
    ["outer", "inner", "leaf"]⟩

/-- How it is built; the reference to `leaf` is made once and used twice. -/
def leafWorkshop : Workshop :=
  let leaf : Matcher := ⟨0, .rule "leaf"⟩
  let looked : Matcher := ⟨1, .next leaf⟩
  (((((Workshop.opened 0).called (.rule "leaf")).called (.next (.matcher leaf))).defined
    "outer" (.many [.matcher looked, .node (.rule "inner")])).defined
    "inner" (.matcher leaf)).defined "leaf" (.text "x") |>.built "outer"

theorem leafWorkshop_reachable : leafWorkshop.Reachable := by
  have hleaf := Workshop.Reachable.called (.rule "leaf") (.opened 0) nofun
  have hlooked := hleaf.called (.next (.matcher ⟨0, .rule "leaf"⟩))
    (List.forall_mem_singleton.mpr (.made (List.mem_singleton_self _)))
  have houter := hlooked.defined "outer"
    (.many [.matcher ⟨1, .next ⟨0, .rule "leaf"⟩⟩, .node (.rule "inner")])
    (List.forall_mem_singleton.mpr (.made List.mem_cons_self))
  -- the reference to `leaf` was made before that to `outer` and before `looked`
  have hinner := houter.defined "inner" (.matcher ⟨0, .rule "leaf"⟩)
    (List.forall_mem_singleton.mpr
      (.made (List.mem_cons_of_mem _ (List.mem_cons_of_mem _ List.mem_cons_self))))
  exact (hinner.defined "leaf" (.text "x") nofun).built "outer"

theorem leafGrammar_mem : leafGrammar ∈ leafWorkshop.grammars :=
  List.mem_singleton_self leafGrammar

/-- What `leafGrammar` makes of one token. -/
def leafTree (t : Token) : Node :=
  ⟨some (.rule "outer"), none,
    [⟨some (.rule "inner"), none, [⟨some (.rule "leaf"), none, [.leaf t]⟩]⟩]⟩

theorem exists_descent_leafTree (t : Token) :
    ∃ path, (leafTree t).Descent path ∧ path.countP Node.ofRule = 3 :=
  ⟨_, .down List.mem_cons_self (.down List.mem_cons_self .stop), rfl⟩

/-- With a memo it is enough that two rules may be nested. -/
theorem parse_leafGrammar_memoize (depth : Nat) (listening : Bool) :
    (leafGrammar.parse ⟨true, depth + 2⟩ listening [.ofText .identifier "x" .origin]).result =
      .ok ⟨leafTree (.ofText .identifier "x" .origin), []⟩ := by
  simp [leafTree, leafGrammar, Grammar.parse, Grammar.verdict, attemptWith, attempt, attemptShape,
    attemptAll, settled, remembered?, keep, announce, enterRule, thenFrom, concluded,
    State.outcomeAt?_remember, ahead, oneToken, produce, State.peek?, List.lookup_cons,
    Matcher.isRule, Matcher.ruleName?, Bind.bind, andThen, grouped, Pure.pure, State.atEnd,
    Node.build, Node.group, Node.spliced, Node.isGroup, Node.empty, Node.leaf, Token.ofText]

/-- Three rules may be nested, which is enough without a memo, too. -/
theorem looked_for_rule_nests_within :
    let tokens : List Token := [.ofText .identifier "x" .origin]
    leafWorkshop.Reachable ∧ leafGrammar ∈ leafWorkshop.grammars ∧
      (leafGrammar.parse ⟨false, 3⟩ false tokens).result.toBool = true ∧
      ∃ out, (leafGrammar.parse ⟨true, 3⟩ false tokens).result = .ok out ∧
        ∀ path, out.root.Descent path → path.countP Node.ofRule ≤ 3 := by
  intro tokens
  have hok : (leafGrammar.parse ⟨false, 3⟩ false tokens).result.toBool = true := by
    decide +kernel
  refine ⟨leafWorkshop_reachable, leafGrammar_mem, hok, _, parse_leafGrammar_memoize 1 false, ?_⟩
  intro path hp
  refine parse_nests_within leafWorkshop_reachable leafGrammar_mem true 3 false tokens
    (parse_leafGrammar_memoize 1 false) (fun _ p limit h => ?_) hp
  rw [h] at hok
  cases hok

/-- Only two may be, and still three are: the `leaf` inside of `inner` is the one that was looked
for. -/
theorem replayed_rule_nests_deeper :
    let tokens : List Token := [.ofText .identifier "x" .origin]
    leafWorkshop.Reachable ∧ leafGrammar ∈ leafWorkshop.grammars ∧
      ∃ out, (leafGrammar.parse ⟨true, 2⟩ false tokens).result = .ok out ∧
        ∃ path, out.root.Descent path ∧ ¬ path.countP Node.ofRule ≤ 2 := by
  intro tokens
  obtain ⟨path, hp, hcount⟩ := exists_descent_leafTree (.ofText .identifier "x" .origin)
  refine ⟨leafWorkshop_reachable, leafGrammar_mem, _, parse_leafGrammar_memoize 0 false, path, hp,
    ?_⟩
  rw [hcount]
  decide

end Packrat
