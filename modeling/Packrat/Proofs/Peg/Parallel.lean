import Packrat.Proofs.Node.Bare
import Packrat.Proofs.Peg.Likeness

/-!
# Proofs — Peg — Parallel

Two parses side by side, of tokens that differ only in their layout: where they stand and which
trivia stood before them.  Of all that, a parse takes notice only of whether a token touches the one
before it.

States *resemble* each other when they are the same once all tokens are bare, and the same tokens
touch.  That is a likeness which every step keeps (`kept_layout`).  Attempts are *parallel* if they
end in states that resemble each other whenever they start in such, with results that are the same
once they are bare.

**Parallel attempts** (`parallel_attempt`): every attempt is parallel to itself, with a memo or
without one, whether it is aborted or not.

**Layout** (`parse_unaffected_by_layout`): the results of two parses of such tokens are the same
once they are bare.
-/

namespace Packrat

open Attempt

variable {s s' : State} {p : Nat}

/-! ### States that resemble each other -/

/-- The states differ only in the layout of tokens, and where tokens touch, they do not. -/
structure State.Resembles (s s' : State) : Prop where
  tokens_eq : s.tokens.toList.map Token.bare = s'.tokens.toList.map Token.bare
  touching_iff : ∀ p, Touching s.tokens.toList p ↔ Touching s'.tokens.toList p
  cursor_eq : s.cursor = s'.cursor
  deepest_eq : s.deepest = s'.deepest
  reach_eq : s.reach = s'.reach
  stamps_eq : s.stamps = s'.stamps
  outcomes_eq : ∀ id q,
    (s.outcomeAt? id q).map Outcome.bare = (s'.outcomeAt? id q).map Outcome.bare

/-- The attempts ended in the same way: up to layout, in the same state and with the same result, of
which `bare` is what is left without the layout. -/
inductive Ending.Resembles {α : Type} (bare : α → α) : Ending α → Ending α → Prop where
  | ok {a a' : α} {s s' : State} : bare a = bare a' → s.Resembles s' →
      Resembles bare (.ok a, s) (.ok a', s')
  | error {e : Failure} {s s' : State} : s.Resembles s' →
      Resembles bare (.error e, s) (.error e, s')

/-- In states that resemble each other, the attempts end in the same way. -/
def Attempt.Parallel {α : Type} (bare : α → α) (x x' : Attempt α) : Prop :=
  ∀ ⦃s s' : State⦄, s.Resembles s' → Ending.Resembles bare (x s) (x' s')

/-- The likeness of two runs over tokens in two layouts. -/
def layout : Likeness where
  state := State.Resembles
  token t t' := t.bare = t'.bare
  node n n' := n.bare = n'.bare
  trivia tr tr' := tr.bare = tr'.bare
  place := Eq

theorem forall₂_map_eq_iff {α β : Type} {f : α → β} {l l' : List α} :
    List.Forall₂ (fun a a' => f a = f a') l l' ↔ l.map f = l'.map f := by
  rw [← List.forall₂_eq_eq_eq, List.forall₂_map_left_iff, List.forall₂_map_right_iff]

theorem rel_of_map_eq {α β : Type} {f : α → β} {R : α → α → Prop} {o o' : Option α}
    (h : o.map f = o'.map f) (hR : ∀ {a a'}, f a = f a' → R a a') : Option.Rel R o o' := by
  cases o with
  | none =>
      cases o' with
      | none => exact .none
      | some => cases h
  | some a =>
      cases o' with
      | none => cases h
      | some a' => exact .some (hR (Option.some.inj h))

/-! ### Outcomes -/

theorem bare_eq_of_matches {r r' : Match} (h : layout.Matches r r') : r.bare = r'.bare := by
  obtain ⟨hn, htr, hstop, hstamp⟩ := h
  simp only [Match.bare, show r.node.bare = r'.node.bare from hn, forall₂_map_eq_iff.mp htr,
    show r.stop = r'.stop from hstop, hstamp]

theorem matches_of_bare_eq {r r' : Match} (h : r.bare = r'.bare) : layout.Matches r r' where
  node := congrArg Match.node h
  trivia := forall₂_map_eq_iff.mpr (congrArg Match.trivia h)
  stop := Match.stop_eq_of_bare_eq h
  stamp := (congrArg Match.stamp h : r.bare.stamp = r'.bare.stamp)

theorem bare_eq_of_outcomes {o o' : Outcome} (h : layout.Outcomes o o') : o.bare = o'.bare := by
  cases h with
  | matched hr => exact congrArg Outcome.matched (bare_eq_of_matches hr)
  | failed hp => exact congrArg Outcome.failed hp

theorem outcomes_of_bare_eq {o o' : Outcome} (h : o.bare = o'.bare) : layout.Outcomes o o' := by
  obtain ⟨r, r', rfl, rfl, hr⟩ | ⟨p, rfl, rfl⟩ := Outcome.cases_of_bare_eq h
  · exact .matched (matches_of_bare_eq hr)
  · exact .failed rfl

/-! ### States -/

namespace State.Resembles

theorem remember (h : s.Resembles s') (id p : Nat) {o o' : Outcome} (ho : o.bare = o'.bare) :
    (s.remember id p o).Resembles (s'.remember id p o') := by
  have hreach : s.reachWith o = s'.reachWith o' := by
    obtain ⟨r, r', rfl, rfl, hr⟩ | ⟨p, rfl, rfl⟩ := Outcome.cases_of_bare_eq ho
    · simp only [State.reachWith, Match.stop_eq_of_bare_eq hr, h.reach_eq]
    · exact h.reach_eq
  refine { h with reach_eq := hreach, outcomes_eq := fun id' q => ?_ }
  simp only [State.outcomeAt?_remember]
  split
  · exact congrArg some ho
  · exact h.outcomes_eq id' q

theorem atEnd_eq (h : s.Resembles s') : s.atEnd = s'.atEnd := by
  have hsize : s.tokens.size = s'.tokens.size := by
    simpa using congrArg List.length h.tokens_eq
  rw [State.atEnd, State.atEnd, hsize, h.cursor_eq]

theorem map_peek?_eq (h : s.Resembles s') :
    (s.peek? 0).map Token.bare = (s'.peek? 0).map Token.bare := by
  have hp := congrArg (·[s.cursor]?) h.tokens_eq
  simpa [State.peek?, h.cursor_eq] using hp

theorem map_between_eq (h : s.Resembles s') (p q : Nat) :
    (s.between p q).map Token.bare = (s'.between p q).map Token.bare := by
  rw [s.truthful_self.between_eq, s'.truthful_self.between_eq]
  simp only [List.extract_eq_take_drop, List.map_take, List.map_drop, h.tokens_eq]

end State.Resembles

/-- Every step keeps the layout apart. -/
theorem kept_layout : layout.Kept where
  cursor := State.Resembles.cursor_eq
  atEnd := State.Resembles.atEnd_eq
  peek := fun h => rel_of_map_eq h.map_peek?_eq id
  between := fun h hp hq => by
    cases hp
    cases hq
    exact forall₂_map_eq_iff.mpr (h.map_between_eq _ _)
  touching := fun h => by rw [h.touching_iff, h.cursor_eq]
  left := fun h => by rw [h.reach_eq, h.cursor_eq]
  stamps := State.Resembles.stamps_eq
  outcome := fun h id => by
    rw [h.cursor_eq]
    exact rel_of_map_eq (h.outcomes_eq id _) outcomes_of_bare_eq
  moveTo := fun h hp => { h with cursor_eq := hp }
  stamped := fun h => { h with stamps_eq := congrArg (· + 1) h.stamps_eq }
  recordFailure := fun h hp => { h with deepest_eq := congrArg₂ max h.deepest_eq hp }
  report := fun h _ _ => { h with }
  remember := fun h id hp ho => by
    cases hp
    exact h.remember id _ (bare_eq_of_outcomes ho)
  place_eq := fun hp hq => by rw [hp, hq]
  place_succ := congrArg (· + 1)
  place_max := congrArg₂ max
  kind := fun h => (Token.bare_eq_iff.mp h).1
  text := fun h => (Token.bare_eq_iff.mp h).2
  leaf := fun h => congrArg Node.leaf h
  tokenNode := fun h kind => by
    show Node.bare _ = Node.bare _
    rw [bare_tokenNode, bare_tokenNode, forall₂_map_eq_iff.mp h]
  group := fun h => by
    show Node.bare _ = Node.bare _
    rw [Node.bare_group, Node.bare_group, forall₂_map_eq_iff.mp h]
  rule := fun h name => by
    show Node.bare _ = Node.bare _
    rw [Node.bare_build, Node.bare_build, List.map_singleton, List.map_singleton, h]
  captured := fun h kind => congrArg (Trivia.mk kind) (forall₂_map_eq_iff.mp h)

/-- **Parallel attempts.** -/
theorem parallel_attempt (cfg : Config) (rules : List (String × Matcher)) (m : Matcher) :
    Parallel Match.bare (attemptWith cfg rules m) (attemptWith cfg rules m) := by
  intro s s' h
  have hends := kept_layout.alike_attempt cfg rules m h
  generalize attemptWith cfg rules m s = e at hends ⊢
  generalize attemptWith cfg rules m s' = e' at hends ⊢
  cases hends with
  | ok hr hs => exact .ok (bare_eq_of_matches hr) hs
  | error he hs =>
      -- failures at the same position are the same failure
      cases he with
      | backtrack hp => cases hp; exact .error hs
      | abort hc =>
          cases hc with
          | undefinedRule => exact .error hs
          | depthExceeded limit hp => cases hp; exact .error hs

/-! ### Parses -/

section

variable {tokens tokens' : List Token}

theorem not_touching_zero : ¬ Touching tokens 0 := by
  rintro ⟨q, -, -, hq, -⟩
  exact absurd hq (Nat.zero_ne_add_one q)

theorem touching_succ_iff :
    Touching tokens (p + 1) ↔ (List.zipWith touches tokens tokens.tail)[p]? = some true := by
  simp only [List.getElem?_zipWith_eq_some, List.getElem?_tail, touches_eq_true_iff]
  constructor
  · rintro ⟨q, a, b, hq, ha, hb, h⟩
    cases hq
    exact ⟨a, b, ha, hb, h⟩
  · rintro ⟨a, b, ha, hb, h⟩
    exact ⟨p, a, b, rfl, ha, hb, h⟩

variable (hsame : List.Forall₂ (fun t t' => t.kind = t'.kind ∧ t.text = t'.text) tokens tokens')
include hsame

theorem map_bare_eq : tokens.map Token.bare = tokens'.map Token.bare := by
  rw [← List.forall₂_eq_eq_eq, List.forall₂_map_left_iff, List.forall₂_map_right_iff]
  exact hsame.imp fun t t' h => Token.bare_eq_iff.mpr h

variable (htouch : List.zipWith touches tokens tokens.tail =
  List.zipWith touches tokens' tokens'.tail)
include htouch

theorem resembles_start (listening listening' : Bool) :
    (State.start tokens listening).Resembles (State.start tokens' listening') where
  tokens_eq := map_bare_eq hsame
  touching_iff := fun p => by
    cases p with
    | zero => exact iff_of_false not_touching_zero not_touching_zero
    | succ p => exact touching_succ_iff.trans (htouch ▸ touching_succ_iff.symm)
  cursor_eq := rfl
  deepest_eq := rfl
  reach_eq := hsame.length_eq
  stamps_eq := rfl
  outcomes_eq := fun id q => by rw [State.outcomeAt?_start, State.outcomeAt?_start]

/-- **Layout.**  The parses both succeed or both fail, whether anybody listens to them or not. -/
theorem parse_unaffected_by_layout (g : Grammar) (cfg : Config) (listening listening' : Bool) :
    (∃ out out', (g.parse cfg listening tokens).result = .ok out ∧
      (g.parse cfg listening' tokens').result = .ok out' ∧ out.root.bare = out'.root.bare ∧
      out.trivia.map Trivia.bare = out'.trivia.map Trivia.bare) ∨
    ∃ e e', (g.parse cfg listening tokens).result = .error e ∧
      (g.parse cfg listening' tokens').result = .error e' ∧ e.bare = e'.bare ∧
      e.position? = e'.position? := by
  have h := parallel_attempt cfg g.rules g.root
    (resembles_start hsame htouch listening listening')
  have hfails : ∀ {p p' : Nat}, p = p' →
      (ParseError.unrecognised tokens p).bare = (ParseError.unrecognised tokens' p').bare :=
    fun hp => hp ▸ ParseError.bare_unrecognised (map_bare_eq hsame) _
  have hposition : ∀ {e e' : ParseError}, e.bare = e'.bare → e.position? = e'.position? :=
    fun he => by rw [← ParseError.position?_bare, he, ParseError.position?_bare]
  simp only [Grammar.parse]
  generalize attemptWith cfg g.rules g.root (.start tokens listening) = x at h ⊢
  generalize attemptWith cfg g.rules g.root (.start tokens' listening') = x' at h ⊢
  cases h with
  | @ok r r' s s' hr hs =>
      simp only [Grammar.verdict, ← hs.atEnd_eq]
      split
      · exact .inl ⟨_, _, rfl, rfl, congrArg Match.node hr, congrArg Match.trivia hr⟩
      · have hp : max s.deepest s.cursor = max s'.deepest s'.cursor := by
          rw [hs.deepest_eq, hs.cursor_eq]
        exact .inr ⟨_, _, rfl, rfl, hfails hp, hposition (hfails hp)⟩
  | @error c s s' hs =>
      cases c with
      | backtrack =>
          have he := hfails hs.deepest_eq
          exact .inr ⟨_, _, rfl, rfl, he, hposition he⟩
      | abort c => exact .inr ⟨_, _, rfl, rfl, rfl, rfl⟩

end

/-- A call in two layouts: on two lines, and on one with a comment before a token. -/
theorem call_parses_alike_in_two_layouts :
    let opening : Matcher := ⟨3, .adjacent ⟨2, .literal "("⟩⟩
    let stars : Matcher := ⟨6, .sequence [⟨4, .literal "*"⟩, ⟨5, .adjacent ⟨4, .literal "*"⟩⟩]⟩
    let comment : Matcher := ⟨9, .trivia .comment ⟨8, .ofKind .comment⟩⟩
    let body : Matcher := ⟨11, .sequence [⟨1, .ofKind .identifier⟩, opening,
      ⟨7, .token ⟨"POWER"⟩ stars⟩, comment, ⟨10, .literal ")"⟩]⟩
    let g : Grammar := ⟨⟨0, .rule "call"⟩, [("call", body)], ["call"]⟩
    let tokens : List Token := [.ofText .identifier "f" ⟨1, 1⟩, .ofText .punctuator "(" ⟨1, 2⟩,
      .ofText .punctuator "*" ⟨1, 4⟩, .ofText .punctuator "*" ⟨1, 5⟩,
      .ofText .comment "// two" ⟨1, 7⟩, .ofText .punctuator ")" ⟨2, 1⟩]
    let tokens' : List Token := [.ofText .identifier "f" ⟨1, 1⟩, .ofText .punctuator "(" ⟨1, 2⟩,
      ⟨.punctuator, "*", ⟨3, 8⟩, [⟨.comment, [.ofText .comment "// one" ⟨2, 1⟩]⟩]⟩,
      .ofText .punctuator "*" ⟨3, 9⟩, .ofText .comment "// two" ⟨3, 20⟩,
      .ofText .punctuator ")" ⟨3, 30⟩]
    List.Forall₂ (fun t t' => t.kind = t'.kind ∧ t.text = t'.text) tokens tokens' ∧
      List.zipWith touches tokens tokens.tail = List.zipWith touches tokens' tokens'.tail ∧
      ∃ out out', (g.parse ⟨false, 1⟩ false tokens).result = .ok out ∧
        (g.parse ⟨false, 1⟩ true tokens').result = .ok out' ∧ out.root.bare = out'.root.bare ∧
        out.trivia.map Trivia.bare = out'.trivia.map Trivia.bare := by
  intro opening stars comment body g tokens tokens'
  have hsame : List.Forall₂ (fun t t' => t.kind = t'.kind ∧ t.text = t'.text) tokens tokens' := by
    subst tokens tokens'
    repeat constructor
  have htouch : List.zipWith touches tokens tokens.tail =
      List.zipWith touches tokens' tokens'.tail := by decide
  refine ⟨hsame, htouch, ?_⟩
  have hok : (g.parse ⟨false, 1⟩ false tokens).result.toBool = true := by decide +kernel
  obtain h | ⟨e, -, he, -⟩ := parse_unaffected_by_layout hsame htouch g ⟨false, 1⟩ false true
  · exact h
  · rw [he] at hok
    cases hok

end Packrat
