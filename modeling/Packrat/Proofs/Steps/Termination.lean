import Packrat.Proofs.Steps.Machine
import Packrat.Proofs.Steps.Pace

/-!
# Proofs — Steps — Termination

Every attempt ends.  The machine does what attempts do, and it gets to the end of each (`Plays`): of
a matcher because it gets to the end of its parts, of a rule because it counts the rules, and of a
repetition because no round goes past the limit of the state, so that after as many rounds as there
are positions left one has consumed nothing (`leadsTo_rounds`).

**Termination** (`attempt_finishes`): with any rules, left-recursive ones included, and any
configuration, from any state in which no match that is remembered ends before its position, the
machine comes to a moment that is finished, and with the ending of the attempt.  Without that order
it may repeat a matcher forever (`Circles.never_finishes`), and then the bound for the rounds is the
only end there is.
-/

namespace Packrat

open Attempt Moment

variable {cfg : Config} {rules : List (String × Matcher)} {d : Nat} {m : Matcher}
  {x : Attempt Match} {s : State} {k : List Frame} {start : Nat}

section

variable (cfg rules d)

/-- Inside of `d` rules, the machine tries the matcher like `x`, from any ordered state. -/
def Plays (m : Matcher) (x : Attempt Match) : Prop :=
  ∀ (k : List Frame) (s : State), s.Ordered →
    LeadsTo cfg rules ⟨k, .attempt m, s, d⟩ (ended k (x s) d)

/-- The same for what is inside of a matcher. -/
def PlaysInside (shape : Shape Matcher) (x : Attempt Match) : Prop :=
  ∀ (k : List Frame) (s : State), s.Ordered →
    LeadsTo cfg rules (inside cfg rules k s d shape) (ended k (x s) d)

end

/-- The machine looks into the memo, tries what is inside, and winds up. -/
theorem plays_settled (hx : PlaysInside cfg rules d m.shape x) :
    Plays cfg rules d m (settled cfg m x) := by
  intro k s h
  apply LeadsTo.of_step
  cases hr : remembered? cfg m s with
  | some o =>
      simp only [step, settled, hr]
      cases o <;> exact .refl _
  | none =>
      simp only [step, settled, hr, thenFrom, cursor_announce]
      have hann := (State.Within.refl h).announce m .entered
      exact (hx _ _ hann.ordered).resume (.refl _)

/-! ### Parts tried once -/

/-- A matcher that waits for its part in a frame, and makes its own ending of what ended. -/
theorem playsInside_of_frame {shape : Shape Matcher} (frame : Nat → Frame)
    {f : Nat → Ending Match → Ending Match} (hx : Plays cfg rules d m x)
    (hbegin : ∀ k s, inside cfg rules k s d shape = ⟨frame s.cursor :: k, .attempt m, s, d⟩)
    (hend : ∀ k start e, (frame start).resumed cfg k d e = ended k (f start e) d) :
    PlaysInside cfg rules d shape (x.thenFrom f) := by
  intro k s h
  rw [hbegin]
  refine (hx _ s h).resume ?_
  rw [hend]
  exact .refl _

theorem playsInside_optional (hx : Plays cfg rules d m x) :
    PlaysInside cfg rules d (.optional m) (orNothing x) := by
  refine playsInside_of_frame .optional hx (fun _ _ => rfl) fun k start e => ?_
  rcases e with ⟨(_ | _) | _, _⟩ <;> rfl

theorem playsInside_next (hx : Plays cfg rules d m x) :
    PlaysInside cfg rules d (.next m) (ahead x) := by
  refine playsInside_of_frame .next hx (fun _ _ => rfl) fun k start e => ?_
  rcases e with ⟨(_ | _) | _, _⟩ <;> rfl

theorem playsInside_nextNot (hx : Plays cfg rules d m x) :
    PlaysInside cfg rules d (.nextNot m) (notAhead x) := by
  refine playsInside_of_frame .nextNot hx (fun _ _ => rfl) fun k start e => ?_
  rcases e with ⟨(_ | _) | _, _⟩ <;> rfl

theorem playsInside_token (hx : Plays cfg rules d m x) (kind : TokenKind) :
    PlaysInside cfg rules d (.token kind m) (asToken kind x) := by
  refine playsInside_of_frame (.token kind) hx (fun _ _ => rfl) fun k start e => ?_
  rcases e with ⟨(_ | _) | _, _⟩ <;> rfl

theorem playsInside_trivia (hx : Plays cfg rules d m x) (kind : TriviaKind) :
    PlaysInside cfg rules d (.trivia kind m) (asTrivia kind x) := by
  refine playsInside_of_frame (.trivia kind) hx (fun _ _ => rfl) fun k start e => ?_
  rcases e with ⟨(_ | _) | _, _⟩ <;> rfl

theorem playsInside_adjacent (hx : Plays cfg rules d m x) :
    PlaysInside cfg rules d (.adjacent m) (ifAdjacent x) := by
  intro k s h
  simp only [inside, ifAdjacent]
  cases s.previous? with
  | none => exact .refl _
  | some previous =>
      cases s.peek? 0 with
      | none => exact .refl _
      | some next =>
          by_cases ht : touches previous next = true
          · simp only [ht, if_true]
            exact hx k s h
          · simp only [ht]
            exact .refl _

/-! ### Sequences, choices and repetitions -/

/-- Matches that were found before and some more, as one match. -/
def collected (found : List Match) : Ending (List Match) → Ending Match
  | (.ok rs, s) => grouped (found ++ rs) s
  | (.error c, s) => (.error c, s)

theorem andThen_grouped (y : Attempt (List Match)) (s : State) :
    y.andThen grouped s = collected [] (y s) := by
  simp only [Attempt.andThen]
  rcases y s with ⟨_ | _, _⟩ <;> rfl

/-- One more match, and then the others. -/
theorem collected_cons (found : List Match) (r : Match) (y : Attempt (List Match)) (s : State) :
    collected found (y.andThen (fun rs => pure (r :: rs)) s) =
      collected (found ++ [r]) (y s) := by
  simp only [Attempt.andThen]
  rcases y s with ⟨_ | rs, _⟩
  · rfl
  · simp only [collected, List.append_assoc]
    rfl

/-- After a round that matched, the repetition is at its end, or there are more. -/
theorem leadsTo_afterRound {more : Attempt (List Match)} {atLeastOne : Bool} {found : List Match}
    {r : Match} (hmore : r.stop ≠ start →
      LeadsTo cfg rules ⟨.round m atLeastOne (found ++ [r]) s.cursor :: k, .attempt m, s, d⟩
        (ended k (collected (found ++ [r]) (more s)) d)) :
    LeadsTo cfg rules ((Frame.round m atLeastOne found start).resumed cfg k d (.ok r, s))
      (ended k (collected found (afterRound more start (.ok r, s))) d) := by
  by_cases hc : r.stop = start
  · simp only [Frame.resumed, afterRound, hc, if_true]
    exact .refl _
  · simp only [Frame.resumed, afterRound, hc, if_false, collected_cons]
    exact hmore hc

/-- **The rounds of a repetition.**  By induction on a number that is larger than what is left up to
the limit: a round that is not the last leaves less. -/
theorem leadsTo_rounds (hx : Plays cfg rules d m x) (hp : KeepsPace x) (atLeastOne : Bool) :
    ∀ (fuel : Nat) (found : List Match) (s : State), s.Ordered → s.limit - s.cursor < fuel →
      (atLeastOne && found.isEmpty) = false →
      LeadsTo cfg rules ⟨.round m atLeastOne found s.cursor :: k, .attempt m, s, d⟩
        (ended k (collected found (rounds x fuel s)) d)
  | 0, _, _, _, hf, _ => absurd hf (Nat.not_lt_zero _)
  | fuel + 1, found, s, h, hf, hone => by
      refine (hx _ s h).resume ?_
      have hp' := hp h
      simp only [rounds, thenFrom]
      generalize x s = e at hp' ⊢
      cases hp' with
      | @ok r s' within le stop =>
          refine leadsTo_afterRound fun hc => ?_
          have hlimit := within.limit_le
          have hcursor := within.cursor_le
          exact leadsTo_rounds hx hp atLeastOne fuel (found ++ [r]) s' within.ordered (by omega)
            (by simp)
      | backtrack within _ =>
          simp only [Frame.resumed, hone, collected, List.append_nil]
          exact .refl _
      | abort => exact .refl _

theorem leadsTo_zeroOrMore (hx : Plays cfg rules d m x) (hp : KeepsPace x) {atLeastOne : Bool}
    {found : List Match} (h : s.Ordered) (hone : (atLeastOne && found.isEmpty) = false) :
    LeadsTo cfg rules ⟨.round m atLeastOne found s.cursor :: k, .attempt m, s, d⟩
      (ended k (collected found (zeroOrMore x s)) d) := by
  refine leadsTo_rounds hx hp atLeastOne _ found s h ?_ hone
  simp only [State.limit]
  omega

theorem playsInside_zeroOrMore (hx : Plays cfg rules d m x) (hp : KeepsPace x) :
    PlaysInside cfg rules d (.zeroOrMore m) ((zeroOrMore x).andThen grouped) := by
  intro k s h
  rw [andThen_grouped]
  exact leadsTo_zeroOrMore hx hp h rfl

theorem playsInside_oneOrMore (hx : Plays cfg rules d m x) (hp : KeepsPace x) :
    PlaysInside cfg rules d (.oneOrMore m) ((oneOrMore x).andThen grouped) := by
  intro k s h
  rw [andThen_grouped]
  refine (hx _ s h).resume ?_
  have hp' := hp h
  simp only [oneOrMore, thenFrom]
  generalize x s = e at hp' ⊢
  cases hp' with
  | ok within _ _ =>
      exact leadsTo_afterRound fun _ => leadsTo_zeroOrMore hx hp within.ordered rfl
  | backtrack => exact .refl _
  | abort => exact .refl _

variable {enter : String → Attempt Match} {ms : List Matcher}

theorem leadsTo_attemptAll (hms : ∀ m ∈ ms, Plays cfg rules d m (attempt cfg enter m))
    (hp : ∀ m ∈ ms, KeepsPace (attempt cfg enter m)) :
    ∀ (found : List Match) {s : State}, s.Ordered →
      LeadsTo cfg rules (goOn k found s d ms)
        (ended k (collected found (attemptAll cfg enter ms s)) d) := by
  induction ms with
  | nil =>
      intro found s _
      show LeadsTo _ _ (ended k (grouped found s) d) (ended k (grouped (found ++ []) s) d)
      rw [List.append_nil]
      exact .refl _
  | cons m ms ih =>
      intro found s h
      obtain ⟨hm, hms⟩ := List.forall_mem_cons.mp hms
      obtain ⟨hpm, hp⟩ := List.forall_mem_cons.mp hp
      refine (hm _ s h).resume ?_
      show LeadsTo _ _ _ (ended k (collected found ((attempt cfg enter m).andThen
        (fun r => (attemptAll cfg enter ms).andThen fun rs => pure (r :: rs)) s)) d)
      rw [Attempt.andThen]
      have hpm := hpm h
      generalize attempt cfg enter m s = e at hpm ⊢
      cases hpm with
      | ok within _ _ =>
          simp only [collected_cons]
          exact ih hms hp _ within.ordered
      | backtrack => exact .refl _
      | abort => exact .refl _

theorem leadsTo_attemptFirst (hms : ∀ m ∈ ms, Plays cfg rules d m (attempt cfg enter m))
    (hp : ∀ m ∈ ms, KeepsPace (attempt cfg enter m)) :
    ∀ (deepest : Nat) {s : State}, s.Ordered →
      LeadsTo cfg rules (goBack k deepest s d ms)
        (ended k (attemptFirst cfg enter deepest ms s) d) := by
  induction ms with
  | nil => exact fun _ _ _ => .refl _
  | cons m ms ih =>
      intro deepest s h
      obtain ⟨hm, hms⟩ := List.forall_mem_cons.mp hms
      obtain ⟨hpm, hp⟩ := List.forall_mem_cons.mp hp
      refine (hm _ s h).resume ?_
      simp only [attemptFirst]
      have hpm := hpm h
      generalize attempt cfg enter m s = e at hpm ⊢
      cases hpm with
      | ok => exact .refl _
      | backtrack within _ => exact ih hms hp _ within.ordered
      | abort => exact .refl _

/-! ### Matchers and rules -/

theorem playsInside_attemptShape {shape : Shape Matcher}
    (hparts : ∀ m ∈ shape.parts, Plays cfg rules d m (attempt cfg enter m))
    (hpace : ∀ m, KeepsPace (attempt cfg enter m))
    (henter : ∀ name, PlaysInside cfg rules d (.rule name) (enter name)) :
    PlaysInside cfg rules d shape (attemptShape cfg enter shape) := by
  cases shape with
  | literal | pattern | ofKind | endOfInput | nothing => exact fun _ _ _ => .refl _
  | sequence ms =>
      intro k s h
      show LeadsTo _ _ (goOn k [] s d ms) (ended k ((attemptAll cfg enter ms).andThen grouped s) d)
      rw [andThen_grouped]
      exact leadsTo_attemptAll hparts (fun m _ => hpace m) [] h
  | firstOf ms => exact fun k s h => leadsTo_attemptFirst hparts (fun m _ => hpace m) _ h
  | optional m => exact playsInside_optional (hparts m (List.mem_singleton_self m))
  | oneOrMore m => exact playsInside_oneOrMore (hparts m (List.mem_singleton_self m)) (hpace m)
  | zeroOrMore m => exact playsInside_zeroOrMore (hparts m (List.mem_singleton_self m)) (hpace m)
  | next m => exact playsInside_next (hparts m (List.mem_singleton_self m))
  | nextNot m => exact playsInside_nextNot (hparts m (List.mem_singleton_self m))
  | token kind m => exact playsInside_token (hparts m (List.mem_singleton_self m)) kind
  | trivia kind m => exact playsInside_trivia (hparts m (List.mem_singleton_self m)) kind
  | adjacent m => exact playsInside_adjacent (hparts m (List.mem_singleton_self m))
  | rule name => exact henter name

/-- **One level of rules**, by induction on the parts. -/
theorem plays_attempt_of_enter (hpace : ∀ m, KeepsPace (attempt cfg enter m))
    (henter : ∀ name, PlaysInside cfg rules d (.rule name) (enter name)) :
    ∀ m : Matcher, Plays cfg rules d m (attempt cfg enter m) :=
  Matcher.induction_parts fun m ih => by
    rw [attempt_eq]
    exact plays_settled (playsInside_attemptShape ih hpace henter)

/-- **All levels of rules**, by induction on how many may still be entered: those that the machine
is inside of and those make up the limit. -/
theorem playsInside_enterRule : ∀ (depth d : Nat) (name : String), d + depth = cfg.maxDepth →
    PlaysInside cfg rules d (.rule name) (enterRule cfg rules depth name)
  | 0, d, name, hd, k, s, _ => by
      have hle : cfg.maxDepth ≤ d := Nat.le_of_eq hd.symm
      simp only [inside, enterRule, hle, if_true]
      exact .refl _
  | depth + 1, d, name, hd, k, s, h => by
      have hlt : ¬ cfg.maxDepth ≤ d := by omega
      simp only [inside, enterRule, hlt, if_false]
      cases hb : rules.lookup name with
      | none => exact .refl _
      | some body =>
          have hbody := plays_attempt_of_enter (keepsPace_attempt cfg rules depth)
            (fun name => playsInside_enterRule depth (d + 1) name (by omega)) body
          have hreport := (State.Within.refl h).report (.rule name) .entered
          refine (hbody _ _ hreport.ordered).resume ?_
          dsimp only
          generalize attempt cfg (enterRule cfg rules depth) body _ = e
          rcases e with ⟨(_ | _) | _, _⟩ <;> exact .refl _

/-- **Termination.** -/
theorem attempt_finishes (cfg : Config) (rules : List (String × Matcher)) (m : Matcher)
    {s : State} (h : s.Ordered) :
    ∃ n, (step cfg rules)^[n] (begun m s) = finished (attemptWith cfg rules m s) :=
  plays_attempt_of_enter (keepsPace_attempt cfg rules cfg.maxDepth)
    (fun name => playsInside_enterRule cfg.maxDepth 0 name (Nat.zero_add _)) m [] s h

/-- A repetition that is given a match beyond the last token, of a matcher that refers to a
left-recursive rule. -/
theorem repetition_beyond_last_token_finishes :
    let loop : Matcher := ⟨0, .rule "loop"⟩
    let rules : List (String × Matcher) := [("loop", ⟨2, .sequence [loop, ⟨1, .literal "a"⟩]⟩)]
    let s := (State.start [] true).remember 0 0 (.matched ⟨.empty, [], 5, 0⟩)
    s.Ordered ∧ ∃ n, (step .standard rules)^[n] (begun ⟨3, .zeroOrMore loop⟩ s) =
      finished (attemptWith .standard rules ⟨3, .zeroOrMore loop⟩ s) := by
  intro loop rules s
  have h : s.Ordered := by
    intro id q r hq
    rw [State.outcomeAt?_remember, State.outcomeAt?_start] at hq
    split at hq
    · next hk => exact hk.2 ▸ Nat.zero_le _
    · cases hq
  exact ⟨h, attempt_finishes .standard rules ⟨3, .zeroOrMore loop⟩ h⟩

/-! ### Without order -/

/-- A round of a repetition, in a state that remembers a match of the matcher from `p` to `q` and
one back: it is about to begin at `p`, or it has come to `q`. -/
inductive Circles (m : Matcher) : (p q : Nat) → Moment → Prop where
  | begins {p q r r' k b found s d} : s.outcomeAt? m.id p = some (.matched r) → r.stop = q →
      s.outcomeAt? m.id q = some (.matched r') → r'.stop = p → s.cursor = p →
      Circles m p q ⟨.round m b found p :: k, .attempt m, s, d⟩
  | ends {p q r r' k b found s d} : s.outcomeAt? m.id p = some (.matched r) → r.stop = q →
      s.outcomeAt? m.id q = some (.matched r') → r'.stop = p → s.cursor = q →
      Circles m p q (ended (.round m b found p :: k) (.ok r, s) d)

/-- A round that ends elsewhere is followed by another, and that one leads back. -/
theorem Circles.onward {p q : Nat} {a : Moment} (h : Circles m p q a) (hmem : cfg.memoize = true)
    (hne : p ≠ q) : ∃ p' q', p' ≠ q' ∧ Circles m p' q' (a.step cfg rules) := by
  cases h with
  | @begins r r' k b found s d hr hq hr' hp hc =>
      have hs : remembered? cfg m s = some (.matched r) := by simp [remembered?, hmem, hc, hr]
      refine ⟨p, q, hne, ?_⟩
      simp only [Moment.step, hs]
      exact .ends hr hq hr' hp hq
  | @ends r r' k b found s d hr hq hr' hp hc =>
      refine ⟨q, p, hne.symm, ?_⟩
      have hstop : r.stop ≠ p := hq ▸ hne.symm
      show Circles m q p ((Frame.round m b found p).resumed cfg k d (.ok r, s))
      simp only [Frame.resumed, hstop, if_false, hc]
      exact .begins hr' hp hr hq hc

/-- **Why the order is needed.**  A repetition never ends where it is given such matches: that a
round ends before it began does not make it the last. -/
theorem Circles.never_finishes {p q : Nat} {a : Moment} (h : Circles m p q a)
    (hmem : cfg.memoize = true) (hne : p ≠ q) (e : Ending Match) :
    ∀ n, (step cfg rules)^[n] a ≠ finished e := by
  intro n
  induction n generalizing p q a with
  | zero =>
      rintro rfl
      cases h
  | succ n ih =>
      obtain ⟨p', q', hne', h'⟩ := h.onward hmem hne
      exact ih h' hne'

end Packrat
