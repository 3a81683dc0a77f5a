import Packrat.Proofs.Grammar.Numbers
import Packrat.Proofs.Peg.Yields

/-!
# Proofs — Peg — Soundness

Attempts answer what matchers yield.  A state is *truthful* for the matchers `F` when it is over
the given tokens and every outcome it remembers for one of them is an answer which that matcher
yields.

**Soundness** (`tells_attempt`): in a truthful state, an attempt that is not aborted comes to an
answer that its matcher yields at the cursor, and whatever it ends in is a truthful state again.
Where outcomes are remembered, that needs `F` to contain everything an attempt comes across and
its members to be told apart by their numbers (`Family`).  Where they are not, `F` may be empty,
and every state over the tokens is truthful.

Inside a matcher, a failure may leave the cursor anywhere (`ToldInside`); a list of matches is the
answer of the sequence or repetition it was collected for (`ToldGroup`).
-/

namespace Packrat

/-! ### Truthful states -/

/-- What is remembered for the matchers of `F` is what they yield. -/
structure State.Truthful (rules : List (String × Matcher)) (tokens : List Token)
    (F : Matcher → Prop) (s : State) : Prop where
  tokens_eq : s.tokens = tokens.toArray
  told : ∀ {m q o}, F m → s.outcomeAt? m.id q = some o → Yields rules tokens m q o.answer

variable {rules : List (String × Matcher)} {tokens : List Token} {F : Matcher → Prop}
  {cfg : Config} {s s' : State}

namespace State.Truthful

/-- Every state over the tokens is truthful for no matchers. -/
theorem of_tokens (h : s.tokens = tokens.toArray) : s.Truthful rules tokens fun _ => False :=
  ⟨h, nofun⟩

theorem start (listening : Bool) : (State.start tokens listening).Truthful rules tokens F :=
  ⟨rfl, fun _ h => by simp at h⟩

theorem of_same (h : s.Truthful rules tokens F) (ht : s'.tokens = s.tokens)
    (ho : ∀ id q, s'.outcomeAt? id q = s.outcomeAt? id q) : s'.Truthful rules tokens F :=
  ⟨ht.trans h.tokens_eq, fun hm e => h.told hm (ho _ _ ▸ e)⟩

theorem moveTo (h : s.Truthful rules tokens F) (p : Nat) : (s.moveTo p).Truthful rules tokens F :=
  h.of_same rfl fun _ _ => rfl

theorem stamped (h : s.Truthful rules tokens F) : s.stamped.Truthful rules tokens F :=
  h.of_same rfl fun _ _ => rfl

theorem report (h : s.Truthful rules tokens F) (subject : Subject) (phase : Phase) :
    (s.report subject phase).Truthful rules tokens F :=
  h.of_same rfl fun _ _ => rfl

theorem recordFailure (h : s.Truthful rules tokens F) (p : Nat) :
    (s.recordFailure p).Truthful rules tokens F :=
  h.of_same rfl fun _ _ => rfl

theorem announce (h : s.Truthful rules tokens F) (m : Matcher) (phase : Phase) :
    (Attempt.announce m phase s).Truthful rules tokens F :=
  h.of_same (by simp) (by simp)

/-- A true outcome may be remembered: the only matcher it is read for is the one it is true of. -/
theorem keep (h : s.Truthful rules tokens F) (hF : cfg.memoize = true → Family rules F)
    {m : Matcher} (hm : cfg.memoize = true → F m) {q : Nat} {o : Outcome}
    (ho : Yields rules tokens m q o.answer) :
    (Attempt.keep cfg m q o s).Truthful rules tokens F where
  tokens_eq := by simpa using h.tokens_eq
  told := fun {m' q' o'} hm' e => by
    rw [Attempt.outcomeAt?_keep] at e
    split at e
    · next hk =>
      obtain ⟨hc, hid, rfl⟩ := hk
      -- two members of `F` with one number are one
      obtain rfl := (hF hc).unique (hm hc) hm' hid
      cases e
      exact ho
    · exact h.told hm' e

theorem peek?_zero (h : s.Truthful rules tokens F) : s.peek? 0 = tokens[s.cursor]? := by
  simp [State.peek?, h.tokens_eq]

theorem atEnd_iff (h : s.Truthful rules tokens F) :
    s.atEnd = true ↔ tokens.length ≤ s.cursor := by
  simp [State.atEnd, h.tokens_eq]

theorem length_le_reach (h : s.Truthful rules tokens F) : tokens.length ≤ s.reach := by
  simpa [h.tokens_eq] using s.size_le_reach

theorem between_eq (h : s.Truthful rules tokens F) (p q : Nat) :
    s.between p q = tokens.extract p q := by
  simp only [State.between, h.tokens_eq, Array.toList_extract, List.size_toArray,
    List.extract_eq_take_drop]
  rcases Nat.le_total q tokens.length with hq | hq
  · rw [Nat.min_eq_left hq]
    rcases Nat.le_total p q with hp | hp
    · rw [Nat.min_eq_left hp]
    · simp [Nat.min_eq_right hp, Nat.sub_eq_zero_of_le hp]
  · rw [Nat.min_eq_right hq]
    rcases Nat.le_total p tokens.length with hp | hp
    · rw [Nat.min_eq_left hp, List.take_of_length_le (by simp),
        List.take_of_length_le (by simp; omega)]
    · simp [Nat.min_eq_right hp, List.drop_of_length_le hp]

/-- The tokens around the cursor touch. -/
theorem touching_iff (h : s.Truthful rules tokens F) :
    Touching tokens s.cursor ↔ ∃ previous next, s.previous? = some previous ∧
      s.peek? 0 = some next ∧ Attempt.touches previous next = true := by
  rw [h.peek?_zero]
  simp only [State.previous?, h.tokens_eq, Attempt.touches, decide_eq_true_eq]
  constructor
  · rintro ⟨q, previous, next, hq, h₁, h₂, h₃⟩
    exact ⟨previous, next, by simpa [hq] using h₁, h₂, h₃⟩
  · rintro ⟨previous, next, h₁, h₂, h₃⟩
    split at h₁
    · cases h₁
    · next hc =>
      exact ⟨s.cursor - 1, previous, next, by omega, by simpa using h₁, h₂, h₃⟩

end State.Truthful

/-! ### Adjacent attempts -/

theorem touches_eq_true_iff {a b : Token} :
    Attempt.touches a b = true ↔ b.line = a.line ∧ b.column ≤ a.endColumn :=
  decide_eq_true_iff

section

variable (hs : s.tokens = tokens.toArray)
include hs

theorem ifAdjacent_of_touching (x : Attempt Match) (ht : Touching tokens s.cursor) :
    Attempt.ifAdjacent x s = x s := by
  have h : s.Truthful [] tokens fun _ => False := .of_tokens hs
  obtain ⟨previous, next, h₁, h₂, h₃⟩ := h.touching_iff.mp ht
  simp only [Attempt.ifAdjacent, h₁, h₂, h₃, if_true]

theorem ifAdjacent_of_not_touching (x : Attempt Match) (ht : ¬ Touching tokens s.cursor) :
    Attempt.ifAdjacent x s = Attempt.failHere s := by
  have h : s.Truthful [] tokens fun _ => False := .of_tokens hs
  simp only [Attempt.ifAdjacent]
  split
  · next previous next h₁ h₂ =>
    split
    · next h₃ => exact absurd (h.touching_iff.mpr ⟨previous, next, h₁, h₂, h₃⟩) ht
    · rfl
  · rfl

end

/-! ### How attempts end -/

section

variable (rules tokens F)

/-- How trying what is inside of `m` may end in a truthful state. -/
inductive ToldInside (m : Matcher) (s : State) : Ending Match → Prop where
  | ok {r : Match} {s' : State} (truthful : s'.Truthful rules tokens F)
      (yields : Yields rules tokens m s.cursor r.answer) (stop : s'.cursor = r.stop) :
      ToldInside m s (.ok r, s')
  | backtrack {p : Nat} {s' : State} (truthful : s'.Truthful rules tokens F)
      (yields : Yields rules tokens m s.cursor (.failed p)) :
      ToldInside m s (.error (.backtrack p), s')
  | abort {c : Abort} {s' : State} (truthful : s'.Truthful rules tokens F) :
      ToldInside m s (.error (.abort c), s')

/-- How trying `m` may end in a truthful state: the cursor is put back on failure. -/
inductive Told (m : Matcher) (s : State) : Ending Match → Prop where
  | ok {r : Match} {s' : State} (truthful : s'.Truthful rules tokens F)
      (yields : Yields rules tokens m s.cursor r.answer) (stop : s'.cursor = r.stop) :
      Told m s (.ok r, s')
  | backtrack {p : Nat} {s' : State} (truthful : s'.Truthful rules tokens F)
      (yields : Yields rules tokens m s.cursor (.failed p)) (back : s'.cursor = s.cursor) :
      Told m s (.error (.backtrack p), s')
  | abort {c : Abort} {s' : State} (truthful : s'.Truthful rules tokens F) :
      Told m s (.error (.abort c), s')

/-- How collecting matches for a matcher of the given shape may end in a truthful state. -/
inductive ToldGroup (shape : Shape Matcher) (s : State) : Ending (List Match) → Prop where
  | ok {rs : List Match} {s' : State} (truthful : s'.Truthful rules tokens F)
      (yields : ∀ i, Yields rules tokens ⟨i, shape⟩ s.cursor
        (.matched (.group (rs.map (·.node))) (rs.flatMap (·.trivia)) s'.cursor)) :
      ToldGroup shape s (.ok rs, s')
  | backtrack {p : Nat} {s' : State} (truthful : s'.Truthful rules tokens F)
      (yields : ∀ i, Yields rules tokens ⟨i, shape⟩ s.cursor (.failed p)) :
      ToldGroup shape s (.error (.backtrack p), s')
  | abort {c : Abort} {s' : State} (truthful : s'.Truthful rules tokens F) :
      ToldGroup shape s (.error (.abort c), s')

/-- How trying the rest of some alternatives may end in a truthful state, where `deepest` is the
furthest failure of those before. -/
inductive ToldChoice (deepest : Nat) (ms : List Matcher) (s : State) : Ending Match → Prop where
  | ok {r : Match} {s' : State} (truthful : s'.Truthful rules tokens F)
      (yields : ∀ i, Yields rules tokens ⟨i, .firstOf ms⟩ s.cursor r.answer)
      (stop : s'.cursor = r.stop) : ToldChoice deepest ms s (.ok r, s')
  | backtrack {q : Nat} {s' : State} (truthful : s'.Truthful rules tokens F)
      (yields : ∀ i, Yields rules tokens ⟨i, .firstOf ms⟩ s.cursor (.failed q)) :
      ToldChoice deepest ms s (.error (.backtrack (max deepest q)), s')
  | abort {c : Abort} {s' : State} (truthful : s'.Truthful rules tokens F) :
      ToldChoice deepest ms s (.error (.abort c), s')

/-- In every truthful state, trying `x` comes to an answer of `m`. -/
def Tells (m : Matcher) (x : Attempt Match) : Prop :=
  ∀ ⦃s : State⦄, s.Truthful rules tokens F → Told rules tokens F m s (x s)

end

theorem Told.truthful_end {m : Matcher} {e : Ending Match} (h : Told rules tokens F m s e) :
    e.2.Truthful rules tokens F := by
  cases h <;> assumption

/-- Attaching a group attaches what is in it. -/
theorem Node.group_cons (n : Node) (ns : List Node) :
    Node.group (n :: ns) = Node.group [n, Node.group ns] := by
  simp [Node.group, Node.spliced, Node.isGroup]

theorem Node.build_single (kind : NodeKind) (n : Node) :
    Node.build kind none [n] = ⟨some kind, none, n.spliced⟩ := by
  simp [Node.build]

theorem tokenNode_eq_ofMerged (kind : TokenKind) (ts : List Token) :
    Attempt.tokenNode kind ts = Node.ofMerged kind ts := by
  match ts with
  | [] => rfl
  | [t] =>
      simp [Attempt.tokenNode, Node.ofMerged, Node.leaf, Token.retag, Token.merged, String.join]
  | _ :: _ :: _ => rfl

/-! ### Each way of trying -/

section

open Attempt

variable {m : Matcher} {x : Attempt Match} {i : Nat}

theorem toldInside_produce (h : s.Truthful rules tokens F) {node : Node}
    {trivia : List (Trivia Token)}
    (hy : Yields rules tokens m s.cursor (.matched node trivia s.cursor)) :
    ToldInside rules tokens F m s (produce node trivia s.cursor s) :=
  .ok h.stamped hy rfl

theorem toldInside_failHere (h : s.Truthful rules tokens F)
    (hy : Yields rules tokens m s.cursor (.failed s.cursor)) :
    ToldInside rules tokens F m s (failHere s) :=
  .backtrack h hy

theorem toldInside_oneToken (h : s.Truthful rules tokens F) {test : Token → Bool}
    (hy : ∀ t, tokens[s.cursor]? = some t → test t = true →
      Yields rules tokens m s.cursor (.matched (.leaf t) [] (s.cursor + 1)))
    (hn : (∀ t, tokens[s.cursor]? = some t → test t ≠ true) →
      Yields rules tokens m s.cursor (.failed s.cursor)) :
    ToldInside rules tokens F m s (oneToken test s) := by
  simp only [oneToken]
  rw [h.peek?_zero]
  split
  · next t ht =>
    split
    · next hx => exact .ok (h.moveTo _).stamped (hy t ht hx) rfl
    · next hx =>
      refine toldInside_failHere h (hn fun t' ht' => ?_)
      cases ht.symm.trans ht'
      exact hx
  · next ht => exact toldInside_failHere h (hn fun t' ht' => by rw [ht] at ht'; cases ht')

theorem toldInside_orNothing (hx : Tells rules tokens F m x) (h : s.Truthful rules tokens F) :
    ToldInside rules tokens F ⟨i, .optional m⟩ s (orNothing x s) := by
  simp only [orNothing, thenFrom]
  have hx := hx h
  generalize x s = e at hx ⊢
  cases hx with
  | ok truthful yields stop => exact .ok truthful (.optional yields) stop
  | backtrack truthful yields back => exact .ok truthful.stamped (.optional_none yields) back
  | abort truthful => exact .abort truthful

theorem toldInside_ahead (hx : Tells rules tokens F m x) (h : s.Truthful rules tokens F) :
    ToldInside rules tokens F ⟨i, .next m⟩ s (ahead x s) := by
  simp only [ahead, thenFrom]
  have hx := hx h
  generalize x s = e at hx ⊢
  cases hx with
  | ok truthful yields _ => exact .ok (truthful.moveTo _).stamped (.next yields) rfl
  | backtrack truthful yields _ => exact .backtrack truthful (.next_fails yields)
  | abort truthful => exact .abort truthful

theorem toldInside_notAhead (hx : Tells rules tokens F m x) (h : s.Truthful rules tokens F) :
    ToldInside rules tokens F ⟨i, .nextNot m⟩ s (notAhead x s) := by
  simp only [notAhead, thenFrom]
  have hx := hx h
  generalize x s = e at hx ⊢
  cases hx with
  | ok truthful yields _ => exact .backtrack (truthful.moveTo _) (.nextNot_fails yields)
  | backtrack truthful yields back => exact .ok truthful.stamped (.nextNot yields) back
  | abort truthful => exact .abort truthful

/-- What is made of a match is told if the rules make the same of an answer. -/
theorem toldInside_remade {m' : Matcher} {make : Match → List Token → Node × List (Trivia Token)}
    (hx : Tells rules tokens F m x) (h : s.Truthful rules tokens F)
    (hok : ∀ r : Match, Yields rules tokens m s.cursor r.answer →
      Yields rules tokens m' s.cursor (.matched (make r (tokens.extract s.cursor r.stop)).1
        (make r (tokens.extract s.cursor r.stop)).2 r.stop))
    (hfail : ∀ q, Yields rules tokens m s.cursor (.failed q) →
      Yields rules tokens m' s.cursor (.failed q)) :
    ToldInside rules tokens F m' s (remade make x s) := by
  simp only [remade, thenFrom]
  have hx := hx h
  generalize x s = e at hx ⊢
  cases hx with
  | ok truthful yields stop =>
      refine .ok truthful.stamped ?_ stop
      rw [truthful.between_eq]
      exact hok _ yields
  | backtrack truthful yields _ => exact .backtrack truthful (hfail _ yields)
  | abort truthful => exact .abort truthful

theorem toldInside_asToken (hx : Tells rules tokens F m x) (h : s.Truthful rules tokens F)
    (kind : TokenKind) : ToldInside rules tokens F ⟨i, .token kind m⟩ s (asToken kind x s) := by
  refine toldInside_remade hx h (fun r yields => ?_) fun q yields => .token_fails yields
  rw [tokenNode_eq_ofMerged]
  exact .token yields

theorem toldInside_asTrivia (hx : Tells rules tokens F m x) (h : s.Truthful rules tokens F)
    (kind : TriviaKind) :
    ToldInside rules tokens F ⟨i, .trivia kind m⟩ s (asTrivia kind x s) :=
  toldInside_remade hx h (fun _ yields => .trivia yields) fun _ yields => .trivia_fails yields

theorem toldInside_ifAdjacent (hx : Tells rules tokens F m x) (h : s.Truthful rules tokens F) :
    ToldInside rules tokens F ⟨i, .adjacent m⟩ s (ifAdjacent x s) := by
  by_cases ht : Touching tokens s.cursor
  · rw [ifAdjacent_of_touching h.tokens_eq x ht]
    have hx := hx h
    generalize x s = e at hx ⊢
    cases hx with
    | ok truthful yields stop => exact .ok truthful (.adjacent ht yields) stop
    | backtrack truthful yields _ => exact .backtrack truthful (.adjacent ht yields)
    | abort truthful => exact .abort truthful
  · rw [ifAdjacent_of_not_touching h.tokens_eq x ht]
    exact toldInside_failHere h (.adjacent_fails ht)

/-! ### Sequences and repetitions -/

theorem toldInside_grouped {shape : Shape Matcher} {y : Attempt (List Match)}
    (hy : ToldGroup rules tokens F shape s (y s)) :
    ToldInside rules tokens F ⟨i, shape⟩ s (y.andThen grouped s) := by
  simp only [Attempt.andThen]
  generalize y s = e at hy ⊢
  cases hy with
  | ok truthful yields => exact .ok truthful.stamped (yields i) rfl
  | backtrack truthful yields => exact .backtrack truthful (yields i)
  | abort truthful => exact .abort truthful

/-- After a first round that matched, either it was the last or a repetition goes on from there. -/
theorem toldGroup_afterRound {shape : Shape Matcher} {more : Attempt (List Match)} {r : Match}
    (hr : Yields rules tokens m s.cursor r.answer) (h' : s'.Truthful rules tokens F)
    (stop : s'.cursor = r.stop)
    (hlast : ∀ i n tr, Yields rules tokens m s.cursor (.matched n tr s.cursor) →
      Yields rules tokens ⟨i, shape⟩ s.cursor (.matched (.group [n]) tr s.cursor))
    (hmore : ∀ i n tr e n' tr' e', Yields rules tokens m s.cursor (.matched n tr e) →
      e ≠ s.cursor → Yields rules tokens ⟨i, .zeroOrMore m⟩ e (.matched n' tr' e') →
      Yields rules tokens ⟨i, shape⟩ s.cursor (.matched (.group [n, n']) (tr ++ tr') e'))
    (hrest : r.stop ≠ s.cursor → ToldGroup rules tokens F (.zeroOrMore m) s' (more s')) :
    ToldGroup rules tokens F shape s (afterRound more s.cursor (.ok r, s')) := by
  show ToldGroup _ _ _ _ _ (if r.stop = s.cursor then _ else _)
  split
  · next hc =>
    refine .ok h' fun i => ?_
    have := hlast i r.node r.trivia (hc ▸ hr)
    simpa [stop, hc] using this
  · next hc =>
    have hrest := hrest hc
    simp only [Attempt.andThen]
    generalize more s' = e at hrest ⊢
    cases hrest with
    | ok truthful yields =>
        refine .ok truthful fun i => ?_
        rw [List.map_cons, Node.group_cons, List.flatMap_cons]
        exact hmore i _ _ _ _ _ _ hr hc (stop ▸ yields i)
    | backtrack truthful yields =>
        -- a repetition of any number of rounds does not fail
        have := yields 0
        cases this
    | abort truthful => exact .abort truthful

/-- More rounds than there are tokens left are never needed. -/
theorem toldGroup_rounds (hx : Tells rules tokens F m x) :
    ∀ (fuel : Nat) {s : State}, s.Truthful rules tokens F → tokens.length - s.cursor < fuel →
      ToldGroup rules tokens F (.zeroOrMore m) s (rounds x fuel s)
  | 0, _, _, hf => absurd hf (Nat.not_lt_zero _)
  | fuel + 1, s, h, hf => by
      simp only [rounds, thenFrom]
      have hx' := hx h
      generalize x s = e at hx' ⊢
      cases hx' with
      | @ok r s' truthful yields stop =>
          refine toldGroup_afterRound yields truthful stop (fun _ _ _ => .zeroOrMore_last)
            (fun _ _ _ _ _ _ _ => .zeroOrMore_more) fun hc => ?_
          -- the round consumed something, so fewer tokens are left for the others
          have hle : s.cursor ≤ r.stop := Yields.le_stop yields
          have hlen : r.stop ≤ tokens.length := Yields.stop_le yields (.inr hc)
          exact toldGroup_rounds hx fuel truthful (by omega)
      | backtrack truthful yields back =>
          exact .ok truthful fun i => by simpa [back] using .zeroOrMore_none yields
      | abort truthful => exact .abort truthful

theorem toldGroup_zeroOrMore (hx : Tells rules tokens F m x) (h : s.Truthful rules tokens F) :
    ToldGroup rules tokens F (.zeroOrMore m) s (zeroOrMore x s) := by
  have := h.length_le_reach
  exact toldGroup_rounds hx _ h (by omega)

theorem toldGroup_oneOrMore (hx : Tells rules tokens F m x) (h : s.Truthful rules tokens F) :
    ToldGroup rules tokens F (.oneOrMore m) s (oneOrMore x s) := by
  simp only [oneOrMore, thenFrom]
  have hx' := hx h
  generalize x s = e at hx' ⊢
  cases hx' with
  | ok truthful yields stop =>
      exact toldGroup_afterRound yields truthful stop (fun _ _ _ => .oneOrMore_last)
        (fun _ _ _ _ _ _ _ => .oneOrMore_more) fun _ => toldGroup_zeroOrMore hx truthful
  | backtrack truthful yields _ => exact .backtrack truthful fun _ => .oneOrMore_fails yields
  | abort truthful => exact .abort truthful

/-! ### Matchers and rules -/

/-- The memo is read and written only for what is in `F`. -/
theorem tells_settled (hF : cfg.memoize = true → Family rules F) (hm : cfg.memoize = true → F m)
    (hx : ∀ {s : State}, s.Truthful rules tokens F → ToldInside rules tokens F m s (x s)) :
    Tells rules tokens F m (settled cfg m x) := by
  intro s h
  simp only [settled]
  split
  · next r hr =>
    obtain ⟨hc, hr⟩ := remembered?_eq_some_iff.mp hr
    exact .ok (h.moveTo _) (h.told (hm hc) hr) rfl
  · next p hp =>
    obtain ⟨hc, hp⟩ := remembered?_eq_some_iff.mp hp
    exact .backtrack h (h.told (hm hc) hp) rfl
  · simp only [thenFrom]
    have hx := hx (h.announce m .entered)
    generalize x (announce m .entered s) = e at hx ⊢
    cases hx with
    | @ok r s' truthful yields stop =>
        rw [cursor_announce] at yields ⊢
        exact .ok ((truthful.announce m _).keep hF hm yields) yields (by simpa using stop)
    | @backtrack p s' truthful yields =>
        rw [cursor_announce] at yields ⊢
        refine .backtrack (State.Truthful.keep ?_ hF hm yields) yields (by simp)
        exact ((truthful.moveTo s.cursor).recordFailure p).announce m _
    | @abort c s' truthful => exact .abort (truthful.moveTo _)

variable {enter : String → Attempt Match}

theorem toldGroup_attemptAll {ms : List Matcher}
    (hms : ∀ m ∈ ms, Tells rules tokens F m (attempt cfg enter m)) :
    ∀ {s : State}, s.Truthful rules tokens F →
      ToldGroup rules tokens F (.sequence ms) s (attemptAll cfg enter ms s) := by
  induction ms with
  | nil => exact fun h => .ok h fun _ => .sequence_nil
  | cons m ms ih =>
      intro s h
      obtain ⟨hm, hms⟩ := List.forall_mem_cons.mp hms
      show ToldGroup _ _ _ _ s (andThen (attempt cfg enter m)
        (fun r => andThen (attemptAll cfg enter ms) fun rs => pure (r :: rs)) s)
      simp only [andThen]
      have hm := hm h
      generalize attempt cfg enter m s = e at hm ⊢
      cases hm with
      | @ok r s' truthful yields stop =>
          have ih := ih hms truthful
          dsimp only
          generalize attemptAll cfg enter ms s' = e at ih ⊢
          cases ih with
          | ok truthful' yields' =>
              refine .ok truthful' fun i => ?_
              rw [List.map_cons, Node.group_cons, List.flatMap_cons]
              exact .sequence_cons yields (stop ▸ yields' i)
          | backtrack truthful' yields' =>
              exact .backtrack truthful' fun i => .sequence_tail_fails yields (stop ▸ yields' i)
          | abort truthful' => exact .abort truthful'
      | backtrack truthful yields _ =>
          exact .backtrack truthful fun _ => .sequence_head_fails yields
      | abort truthful => exact .abort truthful

theorem toldChoice_attemptFirst {ms : List Matcher}
    (hms : ∀ m ∈ ms, Tells rules tokens F m (attempt cfg enter m)) :
    ∀ {deepest : Nat} {s : State}, s.Truthful rules tokens F → s.cursor ≤ deepest →
      ToldChoice rules tokens F deepest ms s (attemptFirst cfg enter deepest ms s) := by
  induction ms with
  | nil =>
      intro deepest s h hd
      have hn : ∀ i, Yields rules tokens ⟨i, .firstOf []⟩ s.cursor (.failed s.cursor) :=
        fun _ => .firstOf_nil
      have := @ToldChoice.backtrack rules tokens F deepest [] s _ _ h hn
      rwa [Nat.max_eq_left hd] at this
  | cons m ms ih =>
      intro deepest s h hd
      obtain ⟨hm, hms⟩ := List.forall_mem_cons.mp hms
      simp only [attemptFirst]
      have hm := hm h
      generalize attempt cfg enter m s = e at hm ⊢
      cases hm with
      | ok truthful yields stop => exact .ok truthful (fun _ => .firstOf_head yields) stop
      | @backtrack p s' truthful yields back =>
          have hd' : s'.cursor ≤ max deepest p := back ▸ Nat.le_trans hd (Nat.le_max_left _ _)
          have ih := ih hms truthful hd'
          dsimp only
          generalize attemptFirst cfg enter (max deepest p) ms s' = e at ih ⊢
          cases ih with
          | ok truthful' yields' stop =>
              exact .ok truthful' (fun i => .firstOf_tail yields (back ▸ yields' i)) stop
          | backtrack truthful' yields' =>
              rw [Nat.max_assoc]
              exact .backtrack truthful' fun i => .firstOf_fails yields (back ▸ yields' i)
          | abort truthful' => exact .abort truthful'
      | abort truthful => exact .abort truthful

theorem toldInside_firstOf {ms : List Matcher}
    (hms : ∀ m ∈ ms, Tells rules tokens F m (attempt cfg enter m))
    (h : s.Truthful rules tokens F) :
    ToldInside rules tokens F ⟨i, .firstOf ms⟩ s (attemptFirst cfg enter s.cursor ms s) := by
  have := toldChoice_attemptFirst hms h (Nat.le_refl _)
  generalize attemptFirst cfg enter s.cursor ms s = e at this ⊢
  cases this with
  | ok truthful yields stop => exact .ok truthful (yields i) stop
  | @backtrack q _ truthful yields =>
      -- the alternatives were tried here, so none of them failed before
      have hq : s.cursor ≤ q := (yields i).within.1
      rw [Nat.max_eq_right hq]
      exact .backtrack truthful (yields i)
  | abort truthful => exact .abort truthful

theorem toldInside_attemptShape {shape : Shape Matcher}
    (hparts : ∀ m ∈ shape.parts, Tells rules tokens F m (attempt cfg enter m))
    (henter : ∀ name i {s : State}, s.Truthful rules tokens F →
      ToldInside rules tokens F ⟨i, .rule name⟩ s (enter name s))
    (h : s.Truthful rules tokens F) :
    ToldInside rules tokens F ⟨i, shape⟩ s (attemptShape cfg enter shape s) := by
  cases shape with
  | literal text =>
      exact toldInside_oneToken h (fun t ht hx => .literal ht (by simpa using hx))
        fun hn => .literal_fails fun t ht => by simpa using hn t ht
  | pattern r =>
      exact toldInside_oneToken h (fun t ht hx => .pattern ht hx) fun hn => .pattern_fails hn
  | ofKind k =>
      exact toldInside_oneToken h (fun t ht hx => .ofKind ht (by simpa using hx))
        fun hn => .ofKind_fails fun t ht => by simpa using hn t ht
  | sequence ms => exact toldInside_grouped (toldGroup_attemptAll hparts h)
  | firstOf ms => exact toldInside_firstOf hparts h
  | optional m => exact toldInside_orNothing (hparts m (List.mem_singleton_self m)) h
  | oneOrMore m =>
      exact toldInside_grouped (toldGroup_oneOrMore (hparts m (List.mem_singleton_self m)) h)
  | zeroOrMore m =>
      exact toldInside_grouped (toldGroup_zeroOrMore (hparts m (List.mem_singleton_self m)) h)
  | next m => exact toldInside_ahead (hparts m (List.mem_singleton_self m)) h
  | nextNot m => exact toldInside_notAhead (hparts m (List.mem_singleton_self m)) h
  | endOfInput =>
      show ToldInside _ _ _ _ s (if s.atEnd = true then _ else _)
      split
      · next hc => exact toldInside_produce h (.endOfInput (h.atEnd_iff.mp hc))
      · next hc =>
        have hc := fun hl => hc (h.atEnd_iff.mpr hl)
        exact toldInside_failHere h (.endOfInput_fails (Nat.lt_of_not_le hc))
  | nothing => exact toldInside_produce h .nothing
  | token kind m => exact toldInside_asToken (hparts m (List.mem_singleton_self m)) h kind
  | trivia kind m => exact toldInside_asTrivia (hparts m (List.mem_singleton_self m)) h kind
  | adjacent m => exact toldInside_ifAdjacent (hparts m (List.mem_singleton_self m)) h
  | rule name => exact henter name i h

/-- If outcomes are remembered, the parts of what is in `F` are in it, too. -/
theorem part_of_memoize (hF : cfg.memoize = true → Family rules F)
    (hm : cfg.memoize = true → F m) : ∀ m' ∈ m.parts, cfg.memoize = true → F m' :=
  fun _ hm' hc => (hF hc).part (hm hc) hm'

/-- **One level of rules.**  If entering rules tells the truth, trying any matcher does. -/
theorem tells_attempt_of_enter (hF : cfg.memoize = true → Family rules F)
    (henter : ∀ name i {s : State}, s.Truthful rules tokens F →
      ToldInside rules tokens F ⟨i, .rule name⟩ s (enter name s)) :
    ∀ m : Matcher, (cfg.memoize = true → F m) → Tells rules tokens F m (attempt cfg enter m) :=
  Matcher.induction_parts fun ⟨i, shape⟩ ih hm => by
    apply tells_settled hF hm
    intro s h
    have hparts := part_of_memoize hF hm
    exact toldInside_attemptShape (fun m' hm' => ih m' hm' (hparts m' hm')) henter h

/-- **All levels of rules**, by induction on how many may still be entered. -/
theorem toldInside_enterRule (hF : cfg.memoize = true → Family rules F) :
    ∀ (depth : Nat) (name : String) (i : Nat) {s : State}, s.Truthful rules tokens F →
      ToldInside rules tokens F ⟨i, .rule name⟩ s (enterRule cfg rules depth name s)
  | 0, _, _, s, h => .abort h
  | depth + 1, name, i, s, h => by
      simp only [enterRule]
      split
      · exact .abort h
      · next body hb =>
        have hx := tells_attempt_of_enter hF (toldInside_enterRule hF depth) body
          (fun hc => (hF hc).body hb) (h.report (.rule name) .entered)
        generalize attempt cfg (enterRule cfg rules depth) body _ = e at hx ⊢
        cases hx with
        | @ok r s' truthful yields stop =>
            refine .ok (truthful.report _ _).stamped ?_ stop
            rw [Node.build_single]
            exact .rule hb yields
        | backtrack truthful yields _ =>
            exact .backtrack (truthful.report _ _) (.rule_fails hb yields)
        | abort truthful => exact .abort truthful

end

/-- **Soundness**, with any number of rules that may still be entered. -/
theorem tells_attempt (hF : cfg.memoize = true → Family rules F) (depth : Nat) {m : Matcher}
    (hm : cfg.memoize = true → F m) :
    Tells rules tokens F m (attempt cfg (enterRule cfg rules depth) m) :=
  tells_attempt_of_enter hF (toldInside_enterRule hF depth) m hm

theorem tells_parts (hF : cfg.memoize = true → Family rules F) (depth : Nat) {m : Matcher}
    (hm : cfg.memoize = true → F m) :
    ∀ m' ∈ m.parts, Tells rules tokens F m' (attempt cfg (enterRule cfg rules depth) m') :=
  fun m' hm' => tells_attempt hF depth (part_of_memoize hF hm m' hm')

end Packrat
