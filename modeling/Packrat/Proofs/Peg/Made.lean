import Packrat.Proofs.Node.Made
import Packrat.Proofs.Peg.Likeness

/-!
# Proofs — Peg — Made

The nodes of a parse are made nodes: those of its tree, those that are remembered and those that are
reported.  An attempt makes a node from its tokens, from the nodes of its parts, or takes it from
the memo, so this is kept by every step; it is a likeness of a run with itself
(`State.kept_selfsame`).

**Spliced nodes** (`nodes_spliced`): what is true of every made node, and that attempts come to no
others.
-/

namespace Packrat

/-- The nodes that the state remembers and has reported are made nodes. -/
structure State.NodesMade (s : State) : Prop where
  remembered : ∀ {id q r}, s.outcomeAt? id q = some (.matched r) → r.node.Made
  reported : ∀ {es e n}, s.trace = some es → e ∈ es → e.phase = .matched n → n.Made

namespace State

variable {s s' : State}

theorem nodesMade_start (tokens : List Token) (listening : Bool) :
    (start tokens listening).NodesMade where
  remembered := fun h => by simp at h
  reported := fun {es e n} hes he _ => by
    have hempty : es = #[] := by
      cases listening
      · cases hes
      · exact (Option.some.inj hes).symm
    simp [hempty] at he

/-- The likeness of a run with itself, over made nodes. -/
def selfsame : Likeness :=
  ⟨fun s s' => s = s' ∧ s.NodesMade, Eq, fun n n' => n.Made ∧ n = n', Eq, Eq⟩

theorem made_tokenNode (kind : TokenKind) (ts : List Token) : (Attempt.tokenNode kind ts).Made := by
  match ts with
  | [] => exact .build _ _ (List.forall_mem_nil _)
  | [t] => exact .leaf _
  | t :: t' :: ts => exact .leaf _

theorem eq_of_selfsame_outcomes {o o' : Outcome} (h : selfsame.Outcomes o o') :
    o = o' ∧ ∀ r, o = .matched r → r.node.Made := by
  cases h with
  | @matched r r' hr =>
      obtain ⟨n, tr, stop, stamp⟩ := r
      obtain ⟨n', tr', stop', stamp'⟩ := r'
      obtain ⟨⟨hn, rfl⟩, htr, rfl, rfl⟩ := hr
      obtain rfl : tr = tr' := by rwa [← List.forall₂_eq_eq_eq]
      exact ⟨rfl, fun r h => by cases h; exact hn⟩
  | failed hp => exact ⟨congrArg Outcome.failed hp, nofun⟩

theorem selfsame_outcome {o : Outcome} (h : ∀ r, o = .matched r → r.node.Made) :
    selfsame.Outcomes o o := by
  cases o with
  | matched r => exact .matched ⟨⟨h r rfl, rfl⟩, List.forall₂_same.mpr fun _ _ => rfl, rfl, rfl⟩
  | failed p => exact .failed rfl

theorem NodesMade.report (h : s.NodesMade) (subject : Subject) {phase : Phase}
    (hphase : ∀ n, phase = .matched n → n.Made) : (s.report subject phase).NodesMade where
  remembered := h.remembered
  reported := fun {es e n} hes he hn => by
    obtain ⟨es', hes', rfl⟩ := Option.map_eq_some_iff.mp hes
    rcases Array.mem_push.mp he with he | rfl
    · exact h.reported hes' he hn
    · exact hphase n hn

theorem NodesMade.remember (h : s.NodesMade) (id q : Nat) {o : Outcome}
    (ho : ∀ r, o = .matched r → r.node.Made) : (s.remember id q o).NodesMade where
  remembered := fun {id' q' r} hr => by
    rw [outcomeAt?_remember] at hr
    split at hr
    · exact ho r (Option.some.inj hr)
    · exact h.remembered hr
  reported := h.reported

/-- Every step goes from made nodes to made nodes. -/
theorem kept_selfsame : selfsame.Kept where
  cursor := fun ⟨h, _⟩ => congrArg cursor h
  atEnd := fun ⟨h, _⟩ => congrArg atEnd h
  peek := fun {s _} ⟨h, _⟩ => by
    subst h
    cases s.peek? 0 with
    | none => exact .none
    | some t => exact .some rfl
  between := fun ⟨h, _⟩ hp hq => by
    subst h hp hq
    exact List.forall₂_same.mpr fun _ _ => rfl
  touching := fun ⟨h, _⟩ => h ▸ Iff.rfl
  left := fun ⟨h, _⟩ => h ▸ rfl
  stamps := fun ⟨h, _⟩ => congrArg stamps h
  outcome := fun {s _} ⟨h, hs⟩ id => by
    subst h
    cases ho : s.outcomeAt? id s.cursor with
    | none => exact .none
    | some o => exact .some (selfsame_outcome fun r hr => hs.remembered (hr ▸ ho))
  moveTo := fun ⟨h, hs⟩ hp => ⟨h ▸ hp ▸ rfl, ⟨hs.remembered, hs.reported⟩⟩
  stamped := fun ⟨h, hs⟩ => ⟨congrArg stamped h, ⟨hs.remembered, hs.reported⟩⟩
  recordFailure := fun ⟨h, hs⟩ hp => ⟨h ▸ hp ▸ rfl, ⟨hs.remembered, hs.reported⟩⟩
  report := fun ⟨h, hs⟩ subject hphase => by
    subst h
    cases hphase with
    | entered => exact ⟨rfl, hs.report subject nofun⟩
    | matched hn =>
        obtain ⟨hn, rfl⟩ := hn
        exact ⟨rfl, hs.report subject fun n h => by cases h; exact hn⟩
    | failed hp =>
        cases hp
        exact ⟨rfl, hs.report subject nofun⟩
  remember := fun ⟨h, hs⟩ id hp ho => by
    subst h hp
    obtain ⟨rfl, hmade⟩ := eq_of_selfsame_outcomes ho
    exact ⟨rfl, hs.remember id _ hmade⟩
  place_eq := fun hp hq => by rw [hp, hq]
  place_succ := congrArg (· + 1)
  place_max := fun hp hq => congrArg₂ max hp hq
  kind := congrArg Token.kind
  text := congrArg Token.text
  leaf := fun h => ⟨.leaf _, congrArg Node.leaf h⟩
  tokenNode := fun h kind => by
    rw [show selfsame.token = Eq from rfl, List.forall₂_eq_eq_eq] at h
    exact ⟨made_tokenNode kind _, congrArg (Attempt.tokenNode kind) h⟩
  group := fun h => by
    obtain ⟨hmade, h⟩ := (List.forall₂_and_left _ _).mp h
    rw [List.forall₂_eq_eq_eq] at h
    exact ⟨.group hmade, congrArg Node.group h⟩
  rule := fun ⟨hn, h⟩ name =>
    ⟨.build _ _ (List.forall_mem_singleton.mpr hn),
      congrArg (fun n => Node.build (.rule name) none [n]) h⟩
  captured := fun h kind => by
    rw [show selfsame.token = Eq from rfl, List.forall₂_eq_eq_eq] at h
    exact congrArg (Trivia.mk kind) h

/-- An attempt makes, remembers and reports made nodes only. -/
theorem NodesMade.attemptWith (h : s.NodesMade) (cfg : Config) (rules : List (String × Matcher))
    (m : Matcher) :
    (attemptWith cfg rules m s).2.NodesMade ∧
      ∀ r, (attemptWith cfg rules m s).1 = .ok r → r.node.Made := by
  have hends := kept_selfsame.alike_attempt cfg rules m (show selfsame.state s s from ⟨rfl, h⟩)
  generalize Packrat.attemptWith cfg rules m s = e at hends ⊢
  cases hends with
  | ok hr hs => exact ⟨hs.2, fun r h => by cases h; exact hr.node.1⟩
  | error _ hs => exact ⟨hs.2, nofun⟩

end State

/-- The tree of a parse is a made node, and what is left of the parse holds no others. -/
theorem Grammar.made_parse (g : Grammar) (cfg : Config) (listening : Bool) (tokens : List Token) :
    (g.parse cfg listening tokens).final.NodesMade ∧
      ∀ out, (g.parse cfg listening tokens).result = .ok out → out.root.Made := by
  have h := (State.nodesMade_start tokens listening).attemptWith cfg g.rules g.root
  simp only [parse]
  generalize attemptWith cfg g.rules g.root (.start tokens listening) = e at h ⊢
  refine ⟨h.1, fun out hout => ?_⟩
  obtain ⟨(_ | _) | r, s⟩ := e
  · cases hout
  · cases hout
  · simp only [verdict] at hout
    split at hout
    · cases hout
      exact h.2 r rfl
    · cases hout

/-- **Spliced nodes.** -/
theorem nodes_spliced :
    (∀ n : Node, n.Made →
      (∀ d ∈ n.descendants, d.isGroup = false) ∧
      (∃ paths : List (List Nat), n.descendants.map some = paths.map n.at? ∧
        paths.Pairwise (· < ·) ∧ ∀ path, path ∈ paths ↔ path ≠ [] ∧ (n.at? path).isSome = true) ∧
      n.HasTokens ((n :: n.descendants).filterMap (·.token)) ∧
      ∀ c : Node, c.Made → (n.push c).HasTokens (n.tokens ++ c.tokens)) ∧
    (∀ (kind : NodeKind) (token : Option Token) (cs : List Node), (∀ c ∈ cs, c.Made) →
      (Node.build kind token cs).HasTokens (token.toList ++ cs.flatMap (·.tokens)) ∧
      (Node.group cs).HasTokens (cs.flatMap (·.tokens))) ∧
    (∀ (cfg : Config) (rules : List (String × Matcher)) (m : Matcher) (s : State), s.NodesMade →
      (attemptWith cfg rules m s).2.NodesMade ∧
      ∀ r, (attemptWith cfg rules m s).1 = .ok r → r.node.Made) ∧
    ∀ (g : Grammar) (cfg : Config) (listening : Bool) (tokens : List Token),
      (g.parse cfg listening tokens).final.NodesMade ∧
      ∀ out, (g.parse cfg listening tokens).result = .ok out → out.root.Made := by
  refine ⟨fun n hn => ⟨?_, n.descendants_places, ?_, fun c hc => ?_⟩,
    fun kind token cs hcs => ⟨?_, ?_⟩, fun cfg rules m s hs => hs.attemptWith cfg rules m,
    Grammar.made_parse⟩
  · rw [Node.descendants_eq]
    exact hn.ungrouped
  · exact n.tokens_eq_filterMap ▸ n.hasTokens_tokens
  · exact hc.tokens_push n ▸ (n.push c).hasTokens_tokens
  · exact Node.Made.tokens_build hcs kind token ▸ Node.hasTokens_tokens _
  · exact Node.Made.tokens_group hcs ▸ Node.hasTokens_tokens _

/-- A list that is made of groups, and a group that is attached to it; and a tree that is parsed. -/
theorem groups_attached_to_list :
    let a : Token := .ofText .identifier "a" ⟨1, 1⟩
    let b : Token := .ofText .identifier "b" ⟨1, 3⟩
    let pair : Node := .group [.leaf a, .group [.empty, .leaf b]]
    let list : Node := .build (.rule "list") (some b) [.empty, pair, .leaf a]
    let g : Grammar := ⟨⟨2, .rule "word"⟩, [("word", ⟨1, .oneOrMore ⟨0, .ofKind .identifier⟩⟩)],
      ["word"]⟩
    let word : Node := .build (.rule "word") none [.group [.leaf a, .leaf b]]
    list.Made ∧ pair.Made ∧ (∀ d ∈ list.descendants, d.isGroup = false) ∧
      list.HasTokens [b, a, b, a] ∧ (list.push pair).HasTokens [b, a, b, a, a, b] ∧
      (State.start [a, b] true).NodesMade ∧
      (attemptWith ⟨true, 1⟩ g.rules g.root (.start [a, b] true)).2.NodesMade ∧
      (g.parse ⟨false, 1⟩ true [a, b]).result = .ok ⟨word, []⟩ ∧ word.Made := by
  intro a b pair list g word
  have hinner : (Node.group [.empty, .leaf b]).Made :=
    .group (List.forall_mem_cons.mpr ⟨.empty, List.forall_mem_singleton.mpr (.leaf b)⟩)
  have hpair : pair.Made :=
    .group (List.forall_mem_cons.mpr ⟨.leaf a, List.forall_mem_singleton.mpr hinner⟩)
  have hparts : ∀ c ∈ [Node.empty, pair, .leaf a], c.Made :=
    List.forall_mem_cons.mpr
      ⟨.empty, List.forall_mem_cons.mpr ⟨hpair, List.forall_mem_singleton.mpr (.leaf a)⟩⟩
  have hlist : list.Made := .build _ _ hparts
  have hstart : (State.start [a, b] true).NodesMade := State.nodesMade_start _ _
  have hparse : (g.parse ⟨false, 1⟩ true [a, b]).result = .ok ⟨word, []⟩ := rfl
  obtain ⟨hnodes, hbuilt, hattempts, hparses⟩ := nodes_spliced
  obtain ⟨hclean, -, -, hpush⟩ := hnodes list hlist
  exact ⟨hlist, hpair, hclean, (hbuilt _ _ _ hparts).1, hpush pair hpair, hstart,
    (hattempts ⟨true, 1⟩ g.rules g.root _ hstart).1, hparse, (hparses g _ _ _).2 _ hparse⟩

end Packrat
