import Packrat.Proofs.Peg.Soundness
import Packrat.Proofs.Peg.Visits

/-!
# Proofs — Peg — Trail

What an attempt is made of.  Trying what is inside of a matcher means trying some of its parts,
one after the other, and after the last of them only the cursor and the stamps change.  A `Trail` is
such a row of attempts, with the matchers and positions that were tried.

**Nothing else, and nothing less** (`treads_attemptShape`): what is on the trail is a `Course`, all
of it unless the attempt is aborted, and an attempt is aborted only by its last part.

So whatever is true of attempts because it is true of the attempts of their parts can be shown by
induction on trails, without looking at the shapes again.
-/

namespace Packrat

open Attempt

variable {rules : List (String × Matcher)} {tokens : List Token} {F : Matcher → Prop}
  {cfg : Config} {how : Matcher → Attempt Match} {m : Matcher} {i : Nat} {c : Option Abort}
  {s s₁ s' : State} {l : List (Matcher × Nat)}

/-! ### What does not change -/

/-- The same tokens, memo and deepest failure. -/
structure State.Alike (s s' : State) : Prop where
  tokens_eq : s'.tokens = s.tokens
  deepest_eq : s'.deepest = s.deepest
  outcomes_eq : ∀ id q, s'.outcomeAt? id q = s.outcomeAt? id q

namespace State.Alike

theorem refl (s : State) : s.Alike s :=
  ⟨rfl, rfl, fun _ _ => rfl⟩

theorem trans (h : s.Alike s₁) (h' : s₁.Alike s') : s.Alike s' :=
  ⟨h'.tokens_eq.trans h.tokens_eq, h'.deepest_eq.trans h.deepest_eq,
    fun _ _ => (h'.outcomes_eq _ _).trans (h.outcomes_eq _ _)⟩

theorem moveTo (s : State) (p : Nat) : s.Alike (s.moveTo p) :=
  ⟨rfl, rfl, fun _ _ => rfl⟩

theorem stamped (s : State) : s.Alike s.stamped :=
  ⟨rfl, rfl, fun _ _ => rfl⟩

theorem report (s : State) (subject : Subject) (phase : Phase) :
    s.Alike (s.report subject phase) :=
  ⟨rfl, rfl, fun _ _ => rfl⟩

theorem announce (s : State) (m : Matcher) (phase : Phase) :
    s.Alike (Attempt.announce m phase s) :=
  ⟨by simp, by simp, by simp⟩

theorem truthful (h : s.Alike s') (hs : s.Truthful rules tokens F) :
    s'.Truthful rules tokens F :=
  hs.of_same h.tokens_eq h.outcomes_eq

end State.Alike

/-- Alike, and nothing was reported. -/
structure State.Still (s s' : State) : Prop extends s.Alike s' where
  trace_eq : s'.trace = s.trace

namespace State.Still

theorem refl (s : State) : s.Still s :=
  ⟨.refl s, rfl⟩

theorem trans (h : s.Still s₁) (h' : s₁.Still s') : s.Still s' :=
  ⟨h.toAlike.trans h'.toAlike, h'.trace_eq.trans h.trace_eq⟩

theorem moveTo (s : State) (p : Nat) : s.Still (s.moveTo p) :=
  ⟨.moveTo s p, rfl⟩

theorem stamped (s : State) : s.Still s.stamped :=
  ⟨.stamped s, rfl⟩

end State.Still

/-! ### Trails -/

/-- Why an attempt was aborted, if it was. -/
def Attempt.cause? {α : Type} : Ending α → Option Abort
  | (.ok _, _) => none
  | (.error (.backtrack _), _) => none
  | (.error (.abort c), _) => some c

section

variable (how)

/-- From the one state to the other, the matchers were tried at the positions of the list; if there
is a cause, the last of these attempts was aborted by it. -/
inductive Trail : State → List (Matcher × Nat) → Option Abort → State → Prop where
  | done {s s' : State} : s.Still s' → Trail s [] none s'
  | step {m : Matcher} {s s' : State} {l : List (Matcher × Nat)} {c : Option Abort} :
      cause? (how m s) = none → Trail (how m s).2 l c s' → Trail s ((m, s.cursor) :: l) c s'
  | stopped {m : Matcher} {s s' : State} {c : Abort} : cause? (how m s) = some c →
      (how m s).2.Still s' → Trail s [(m, s.cursor)] (some c) s'

variable (rules tokens)

/-- The list has the matchers that were tried inside of `m`. -/
structure Treads {α : Type} (m : Matcher) (s : State) (e : Ending α) (l : List (Matcher × Nat)) :
    Prop where
  trail : Trail how s l (cause? e) e.2
  course : Course rules tokens m s.cursor l
  all : cause? e = none → ∀ l', Course rules tokens m s.cursor l' → l' <+: l

end

/-- Everything on a trail was tried, in a state of which the invariant holds. -/
theorem Trail.exists_tried {P : State → Prop} (h : Trail how s l c s') (hc : c = none) (hs : P s)
    (hstep : ∀ x ∈ l, ∀ {s}, s.cursor = x.2 → P s → P (how x.1 s).2) {x : Matcher × Nat}
    (hx : x ∈ l) : ∃ s₀ : State, s₀.cursor = x.2 ∧ P s₀ ∧ cause? (how x.1 s₀) = none := by
  induction h with
  | done => cases hx
  | step hn _ ih =>
      obtain ⟨hm, hl⟩ := List.forall_mem_cons.mp hstep
      rcases List.mem_cons.mp hx with rfl | hx
      · exact ⟨_, rfl, hs, hn⟩
      · exact ih hc (hm rfl hs) hl hx
  | stopped => cases hc

/-- A trail that was aborted ends with an attempt that was. -/
theorem Trail.exists_stopped {P : State → Prop} {c : Abort} (h : Trail how s l (some c) s')
    (hs : P s) (hstep : ∀ x ∈ l, ∀ {s}, s.cursor = x.2 → P s → P (how x.1 s).2) :
    ∃ x ∈ l, ∃ s₀ : State, s₀.cursor = x.2 ∧ P s₀ ∧ cause? (how x.1 s₀) = some c := by
  generalize hc : some c = c' at h
  induction h with
  | done => cases hc
  | step _ _ ih =>
      obtain ⟨hm, hl⟩ := List.forall_mem_cons.mp hstep
      obtain ⟨x, hx, hs₀⟩ := ih (hm rfl hs) hl hc
      exact ⟨x, List.mem_cons_of_mem _ hx, hs₀⟩
  | stopped hn => exact ⟨_, List.mem_singleton_self _, _, rfl, hs, hc ▸ hn⟩

theorem Trail.still (h : Trail how s l c s₁) (ha : s₁.Still s') : Trail how s l c s' := by
  induction h with
  | done ha' => exact .done (ha'.trans ha)
  | step hn _ ih => exact .step hn (ih ha)
  | stopped hn ha' => exact .stopped hn (ha'.trans ha)

theorem Treads.tries {α : Type} {e : Ending α} (h : Treads rules tokens how m s e l) :
    ∀ x ∈ l, Tries rules tokens m s.cursor x.1 x.2 :=
  h.course.tries

/-- If the attempt was not aborted, everything that is tried is on the trail. -/
theorem Treads.mem_of_tries {α : Type} {e : Ending α} (h : Treads rules tokens how m s e l)
    (hc : cause? e = none) {m₁ : Matcher} {p₁ : Nat} (ht : Tries rules tokens m s.cursor m₁ p₁) :
    (m₁, p₁) ∈ l := by
  obtain ⟨l', hl', hm⟩ := ht.exists_course
  exact (h.all hc l' hl').subset hm

/-- What goes on after the parts were tried leaves no trail. -/
theorem Treads.onward {α β : Type} {e : Ending α} {e' : Ending β}
    (h : Treads rules tokens how m s e l) (hc : cause? e' = cause? e) (ha : e.2.Still e'.2) :
    Treads rules tokens how m s e' l where
  trail := hc ▸ h.trail.still ha
  course := h.course
  all := fun hn => h.all (hc ▸ hn)

/-! ### Parts tried once -/

theorem treads_nothing {α : Type} {e : Ending α} (hc : cause? e = none) (ha : s.Still e.2)
    (hn : ∀ m₁, ¬ TriesFirst tokens m s.cursor m₁) : Treads rules tokens how m s e [] where
  trail := hc ▸ .done ha
  course := .nil
  all := fun _ => Course.of_not_triesFirst hn

/-- A matcher that tries one part, where it is itself tried. -/
theorem treads_once {α : Type} {m' : Matcher} {e₁ : Ending Match} {e : Ending α}
    (he : how m s = e₁) (hc : cause? e = cause? e₁) (ha : e₁.2.Still e.2)
    (hf : TriesFirst tokens m' s.cursor m)
    (hg : ∀ m'' p'', ¬ GoesOn rules tokens m' s.cursor m'' p'') :
    Treads rules tokens how m' s e [(m, s.cursor)] where
  trail := by
    subst he
    rw [hc]
    cases hn : cause? (how m s) with
    | none => exact .step hn (.done ha)
    | some c => exact .stopped hn ha
  course := .first hf
  all := fun _ => Course.of_not_goesOn hf hg

theorem treads_oneToken {test : Token → Bool} (hm : m.parts = []) :
    Treads rules tokens how m s (oneToken test s) [] := by
  have hn : ∀ m₁, ¬ TriesFirst tokens m s.cursor m₁ := fun _ hf => by
    have := hf.mem_parts
    rw [hm] at this
    cases this
  simp only [oneToken]
  split
  · split
    · exact treads_nothing rfl ((State.Still.moveTo s _).trans (.stamped _)) hn
    · exact treads_nothing rfl (.refl s) hn
  · exact treads_nothing rfl (.refl s) hn

/-- What is made of the ending of one attempt, as long as it is aborted by the same cause. -/
theorem treads_thenFrom {α : Type} {m' : Matcher} {f : Nat → Ending Match → Ending α}
    (hf : ∀ e, cause? (f s.cursor e) = cause? e ∧ e.2.Still (f s.cursor e).2)
    (hm : TriesFirst tokens m' s.cursor m)
    (hg : ∀ m'' p'', ¬ GoesOn rules tokens m' s.cursor m'' p'') :
    Treads rules tokens how m' s ((how m).thenFrom f s) [(m, s.cursor)] :=
  treads_once rfl (hf _).1 (hf _).2 hm hg

theorem treads_orNothing :
    Treads rules tokens how ⟨i, .optional m⟩ s (orNothing (how m) s) [(m, s.cursor)] := by
  refine treads_thenFrom (fun e => ?_) .optional fun _ _ hg => nomatch hg
  rcases e with ⟨(_ | _) | _, s'⟩
  · exact ⟨rfl, .stamped s'⟩
  · exact ⟨rfl, .refl s'⟩
  · exact ⟨rfl, .refl s'⟩

theorem treads_ahead :
    Treads rules tokens how ⟨i, .next m⟩ s (ahead (how m) s) [(m, s.cursor)] := by
  refine treads_thenFrom (fun e => ?_) .next fun _ _ hg => nomatch hg
  rcases e with ⟨(_ | _) | _, s'⟩
  · exact ⟨rfl, .refl s'⟩
  · exact ⟨rfl, .refl s'⟩
  · exact ⟨rfl, (State.Still.moveTo s' _).trans (.stamped _)⟩

theorem treads_notAhead :
    Treads rules tokens how ⟨i, .nextNot m⟩ s (notAhead (how m) s) [(m, s.cursor)] := by
  refine treads_thenFrom (fun e => ?_) .nextNot fun _ _ hg => nomatch hg
  rcases e with ⟨(_ | _) | _, s'⟩
  · exact ⟨rfl, .stamped s'⟩
  · exact ⟨rfl, .refl s'⟩
  · exact ⟨rfl, .moveTo s' _⟩

theorem treads_remade {m' : Matcher} {make : Match → List Token → Node × List (Trivia Token)}
    (hm : TriesFirst tokens m' s.cursor m)
    (hg : ∀ m'' p'', ¬ GoesOn rules tokens m' s.cursor m'' p'') :
    Treads rules tokens how m' s (remade make (how m) s) [(m, s.cursor)] := by
  refine treads_thenFrom (fun e => ?_) hm hg
  rcases e with ⟨(_ | _) | _, s'⟩
  · exact ⟨rfl, .refl s'⟩
  · exact ⟨rfl, .refl s'⟩
  · exact ⟨rfl, .stamped s'⟩

theorem treads_asToken {kind : TokenKind} :
    Treads rules tokens how ⟨i, .token kind m⟩ s (asToken kind (how m) s) [(m, s.cursor)] :=
  treads_remade .token fun _ _ hg => nomatch hg

theorem treads_asTrivia {kind : TriviaKind} :
    Treads rules tokens how ⟨i, .trivia kind m⟩ s (asTrivia kind (how m) s) [(m, s.cursor)] :=
  treads_remade .trivia fun _ _ hg => nomatch hg

/-- Where the tokens do not touch, the part is not tried. -/
theorem treads_ifAdjacent (h : s.Truthful rules tokens F) :
    ∃ l, Treads rules tokens how ⟨i, .adjacent m⟩ s (ifAdjacent (how m) s) l := by
  by_cases ht : Touching tokens s.cursor
  · rw [ifAdjacent_of_touching h.tokens_eq _ ht]
    refine ⟨_, treads_once rfl rfl (.refl _) (.adjacent ht) ?_⟩
    rintro _ _ ⟨⟩
  · rw [ifAdjacent_of_not_touching h.tokens_eq _ ht]
    refine ⟨[], treads_nothing rfl (.refl s) ?_⟩
    rintro m₁ ⟨⟩
    contradiction

/-! ### Sequences, choices and repetitions -/

/-- The trail of a first part that was not aborted, and of what was tried after it. -/
theorem treads_cons {α : Type} {m' m'' : Matcher} {e₁ : Ending Match} {e : Ending α}
    (he : how m s = e₁) (hn : cause? e₁ = none) (h : Treads rules tokens how m'' e₁.2 e l)
    (hf : TriesFirst tokens m' s.cursor m)
    (hg : GoesOn rules tokens m' s.cursor m'' e₁.2.cursor) :
    Treads rules tokens how m' s e ((m, s.cursor) :: l) where
  trail := by
    subst he
    exact .step hn h.trail
  course := .onward hf hg h.course
  all := fun hc => Course.of_goesOn hf hg (h.all hc)

/-- The trail of a first part that was aborted. -/
theorem treads_stopped {α : Type} {m' : Matcher} {e₁ : Ending Match} {e : Ending α} {c : Abort}
    (he : how m s = e₁) (hn : cause? e₁ = some c) (hc : cause? e = some c)
    (ha : e₁.2.Still e.2) (hf : TriesFirst tokens m' s.cursor m) :
    Treads rules tokens how m' s e [(m, s.cursor)] where
  trail := by
    subst he
    exact hc ▸ .stopped hn ha
  course := .first hf
  all := fun hc' => by
    rw [hc] at hc'
    cases hc'

/-- After the first round of a repetition there may be more. -/
theorem treads_afterRound {m' : Matcher} {more : Attempt (List Match)} {r : Match}
    (he : how m s = (.ok r, s')) (hr : Yields rules tokens m s.cursor r.answer)
    (stop : s'.cursor = r.stop) (hf : TriesFirst tokens m' s.cursor m)
    (hgo : ∀ n tr e, Yields rules tokens m s.cursor (.matched n tr e) → e ≠ s.cursor →
      GoesOn rules tokens m' s.cursor ⟨i, .zeroOrMore m⟩ e)
    (hstay : ∀ m'' p'', GoesOn rules tokens m' s.cursor m'' p'' →
      ∃ n tr e, Yields rules tokens m s.cursor (.matched n tr e) ∧ e ≠ s.cursor)
    (hrest : r.stop ≠ s.cursor →
      ∃ l, Treads rules tokens how ⟨i, .zeroOrMore m⟩ s' (more s') l) :
    ∃ l, Treads rules tokens how m' s (afterRound more s.cursor (.ok r, s')) l := by
  show ∃ l, Treads _ _ _ _ _ (if r.stop = s.cursor then _ else _) l
  split
  · next hc =>
    -- a round that consumed nothing was the last
    refine ⟨_, treads_once he rfl (.refl _) hf fun m'' p'' hg => ?_⟩
    obtain ⟨n, tr, e, hy, hne⟩ := hstay m'' p'' hg
    cases hr.unique hy
    exact hne hc
  · next hc =>
    obtain ⟨l, hl⟩ := hrest hc
    refine ⟨_, treads_cons he rfl (hl.onward ?_ ?_) hf (stop ▸ hgo _ _ _ hr hc)⟩
    · simp only [andThen]; rcases more s' with ⟨(_ | _) | _, _⟩ <;> rfl
    · simp only [andThen]; rcases more s' with ⟨(_ | _) | _, _⟩ <;> exact .refl _

theorem treads_rounds (hx : Tells rules tokens F m (how m)) :
    ∀ (fuel : Nat) {s : State}, s.Truthful rules tokens F → tokens.length - s.cursor < fuel →
      ∃ l, Treads rules tokens how ⟨i, .zeroOrMore m⟩ s (rounds (how m) fuel s) l
  | 0, _, _, hf => absurd hf (Nat.not_lt_zero _)
  | fuel + 1, s, h, hf => by
      simp only [rounds, thenFrom]
      have hx' := hx h
      generalize he : how m s = e at hx' ⊢
      cases hx' with
      | @ok r s' truthful yields stop =>
          refine treads_afterRound he yields stop .zeroOrMore (fun _ _ _ => .zeroOrMore)
            (fun _ _ hg => ?_) fun hc => ?_
          · cases hg with
            | zeroOrMore hy hne => exact ⟨_, _, _, hy, hne⟩
          · have hle : s.cursor ≤ r.stop := Yields.le_stop yields
            have hlen : r.stop ≤ tokens.length := Yields.stop_le yields (.inr hc)
            exact treads_rounds hx fuel truthful (by omega)
      | backtrack truthful yields back =>
          refine ⟨_, treads_once he rfl (.refl _) .zeroOrMore fun _ _ hg => ?_⟩
          cases hg with
          | zeroOrMore hy => cases yields.unique hy
      | abort truthful => exact ⟨_, treads_stopped he rfl rfl (.refl _) .zeroOrMore⟩

theorem treads_zeroOrMore (hx : Tells rules tokens F m (how m)) (h : s.Truthful rules tokens F) :
    ∃ l, Treads rules tokens how ⟨i, .zeroOrMore m⟩ s (zeroOrMore (how m) s) l := by
  have := h.length_le_reach
  exact treads_rounds hx _ h (by omega)

theorem treads_oneOrMore (hx : Tells rules tokens F m (how m)) (h : s.Truthful rules tokens F) :
    ∃ l, Treads rules tokens how ⟨i, .oneOrMore m⟩ s (oneOrMore (how m) s) l := by
  simp only [oneOrMore, thenFrom]
  have hx' := hx h
  generalize he : how m s = e at hx' ⊢
  cases hx' with
  | ok truthful yields stop =>
      refine treads_afterRound he yields stop .oneOrMore (fun _ _ _ => .oneOrMore)
        (fun _ _ hg => ?_) fun _ => treads_zeroOrMore hx truthful
      cases hg with
      | oneOrMore hy hne => exact ⟨_, _, _, hy, hne⟩
  | backtrack truthful yields _ =>
      refine ⟨_, treads_once he rfl (.refl _) .oneOrMore fun _ _ hg => ?_⟩
      cases hg with
      | oneOrMore hy => cases yields.unique hy
  | abort truthful => exact ⟨_, treads_stopped he rfl rfl (.refl _) .oneOrMore⟩

variable {enter : String → Attempt Match}

theorem treads_attemptAll {ms : List Matcher}
    (hms : ∀ m ∈ ms, Tells rules tokens F m (attempt cfg enter m)) :
    ∀ {s : State}, s.Truthful rules tokens F → ∃ l, Treads rules tokens (attempt cfg enter)
      ⟨i, .sequence ms⟩ s (attemptAll cfg enter ms s) l := by
  induction ms with
  | nil => exact fun {s} _ => ⟨[], treads_nothing rfl (.refl s) fun _ hf => nomatch hf⟩
  | cons m ms ih =>
      intro s h
      obtain ⟨hm, hms⟩ := List.forall_mem_cons.mp hms
      show ∃ l, Treads _ _ _ _ s (andThen (attempt cfg enter m)
        (fun r => andThen (attemptAll cfg enter ms) fun rs => pure (r :: rs)) s) l
      simp only [andThen]
      have hm := hm h
      generalize he : attempt cfg enter m s = e at hm ⊢
      cases hm with
      | @ok r s' truthful yields stop =>
          obtain ⟨l, hl⟩ := ih hms truthful
          refine ⟨_, treads_cons he rfl (hl.onward ?_ ?_) .sequence (stop ▸ .sequence yields)⟩
          · dsimp only
            rcases attemptAll cfg enter ms s' with ⟨(_ | _) | _, _⟩ <;> rfl
          · dsimp only
            rcases attemptAll cfg enter ms s' with ⟨(_ | _) | _, _⟩ <;> exact .refl _
      | backtrack truthful yields _ =>
          refine ⟨_, treads_once he rfl (.refl _) .sequence fun _ _ hg => ?_⟩
          cases hg with
          | sequence hy => cases yields.unique hy
      | abort truthful => exact ⟨_, treads_stopped he rfl rfl (.refl _) .sequence⟩

theorem treads_attemptFirst {ms : List Matcher}
    (hms : ∀ m ∈ ms, Tells rules tokens F m (attempt cfg enter m)) :
    ∀ (deepest : Nat) {s : State}, s.Truthful rules tokens F →
      ∃ l, Treads rules tokens (attempt cfg enter) ⟨i, .firstOf ms⟩ s
        (attemptFirst cfg enter deepest ms s) l := by
  induction ms with
  | nil => exact fun _ s _ => ⟨[], treads_nothing rfl (.refl s) fun _ hf => nomatch hf⟩
  | cons m ms ih =>
      intro deepest s h
      obtain ⟨hm, hms⟩ := List.forall_mem_cons.mp hms
      simp only [attemptFirst]
      have hm := hm h
      generalize he : attempt cfg enter m s = e at hm ⊢
      cases hm with
      | ok truthful yields stop =>
          refine ⟨_, treads_once he rfl (.refl _) .firstOf fun _ _ hg => ?_⟩
          cases hg with
          | firstOf hy => cases yields.unique hy
      | @backtrack p s' truthful yields back =>
          -- the other alternatives are tried where this one was
          obtain ⟨l, hl⟩ := ih hms (max deepest p) truthful
          have hg : GoesOn rules tokens ⟨i, .firstOf (m :: ms)⟩ s.cursor ⟨i, .firstOf ms⟩
              s'.cursor := by
            rw [back]
            exact .firstOf yields
          exact ⟨_, treads_cons he rfl hl .firstOf hg⟩
      | abort truthful => exact ⟨_, treads_stopped he rfl rfl (.refl _) .firstOf⟩

theorem Treads.grouped {y : Attempt (List Match)} (h : Treads rules tokens how m s (y s) l) :
    Treads rules tokens how m s (y.andThen Attempt.grouped s) l := by
  refine h.onward ?_ ?_
  · simp only [andThen]
    rcases y s with ⟨(_ | _) | _, _⟩ <;> rfl
  · simp only [andThen]
    rcases y s with ⟨(_ | _) | _, s'⟩
    · exact .refl s'
    · exact .refl s'
    · exact .stamped s'

/-- **Nothing else, and nothing less**, for every shape but the references to rules, which have no
parts. -/
theorem treads_attemptShape (hrule : m.isRule = false)
    (hparts : ∀ m' ∈ m.parts, Tells rules tokens F m' (attempt cfg enter m'))
    (h : s.Truthful rules tokens F) : ∃ l, Treads rules tokens (attempt cfg enter) m s
      (attemptShape cfg enter m.shape s) l := by
  obtain ⟨i, shape⟩ := m
  cases shape with
  | literal text => exact ⟨_, treads_oneToken rfl⟩
  | pattern r => exact ⟨_, treads_oneToken rfl⟩
  | ofKind k => exact ⟨_, treads_oneToken rfl⟩
  | sequence ms =>
      obtain ⟨l, hl⟩ := treads_attemptAll (i := i) hparts h
      exact ⟨l, hl.grouped⟩
  | firstOf ms => exact treads_attemptFirst hparts _ h
  | optional m => exact ⟨_, treads_orNothing⟩
  | oneOrMore m =>
      obtain ⟨l, hl⟩ := treads_oneOrMore (i := i) (hparts m (List.mem_singleton_self m)) h
      exact ⟨l, hl.grouped⟩
  | zeroOrMore m =>
      obtain ⟨l, hl⟩ := treads_zeroOrMore (i := i) (hparts m (List.mem_singleton_self m)) h
      exact ⟨l, hl.grouped⟩
  | next m => exact ⟨_, treads_ahead⟩
  | nextNot m => exact ⟨_, treads_notAhead⟩
  | endOfInput =>
      refine ⟨[], ?_⟩
      show Treads _ _ _ _ s (if s.atEnd = true then _ else _) []
      split
      · exact treads_nothing rfl (.stamped s) fun _ hf => nomatch hf
      · exact treads_nothing rfl (.refl s) fun _ hf => nomatch hf
  | nothing => exact ⟨[], treads_nothing rfl (.stamped s) fun _ hf => nomatch hf⟩
  | token kind m => exact ⟨_, treads_asToken⟩
  | trivia kind m => exact ⟨_, treads_asTrivia⟩
  | adjacent m => exact treads_ifAdjacent h
  | rule name => cases hrule

/-! ### Matchers and rules -/

/-- What holds of a matcher if it holds of its parts, or, with one rule less that may be entered, of
the body of the rule it refers to, holds of all. -/
theorem induction_entering (rules : List (String × Matcher)) {P : Nat → Matcher → Prop}
    (parts : ∀ depth m, m.isRule = false → (∀ m' ∈ m.parts, P depth m') → P depth m)
    (stuck : ∀ depth i name, depth = 0 ∨ rules.lookup name = none → P depth ⟨i, .rule name⟩)
    (body : ∀ depth i name m, rules.lookup name = some m → P depth m →
      P (depth + 1) ⟨i, .rule name⟩) : ∀ depth m, P depth m := by
  intro depth
  induction depth with
  | zero =>
      apply Matcher.induction_parts
      rintro ⟨i, shape⟩ ih
      cases shape with
      | rule name => exact stuck 0 i name (.inl rfl)
      | _ => exact parts 0 _ rfl ih
  | succ depth ihd =>
      apply Matcher.induction_parts
      rintro ⟨i, shape⟩ ih
      cases shape with
      | rule name =>
          cases hb : rules.lookup name with
          | none => exact stuck _ i name (.inr hb)
          | some m => exact body depth i name m hb (ihd m)
      | _ => exact parts _ _ rfl ih

theorem cause?_concluded (cfg : Config) (m : Matcher) (start : Nat) (e : Ending Match) :
    cause? (concluded cfg m start e) = cause? e := by
  rcases e with ⟨(_ | _) | _, _⟩ <;> rfl

/-- The outcome of an attempt is remembered, or it is what trying the inside comes to. -/
theorem attempt_cases (cfg : Config) (enter : String → Attempt Match) (m : Matcher) (s : State) :
    (∃ o, remembered? cfg m s = some o ∧ cause? (attempt cfg enter m s) = none ∧
      s.Still (attempt cfg enter m s).2) ∨
    (remembered? cfg m s = none ∧ attempt cfg enter m s =
      concluded cfg m s.cursor (attemptShape cfg enter m.shape (announce m .entered s))) := by
  rw [attempt_eq]
  simp only [settled]
  split
  · next r hr => exact .inl ⟨_, hr, rfl, .moveTo s _⟩
  · next p hp => exact .inl ⟨_, hp, rfl, .refl s⟩
  · next hn => exact .inr ⟨hn, by simp [thenFrom]⟩

/-- What is not remembered is tried. -/
theorem attempt_of_remembered?_eq_none (hs : remembered? cfg m s = none) :
    attempt cfg enter m s =
      concluded cfg m s.cursor (attemptShape cfg enter m.shape (announce m .entered s)) := by
  rcases attempt_cases cfg enter m s with ⟨_, hs', -⟩ | ⟨-, he⟩
  · rw [hs] at hs'
    cases hs'
  · exact he

/-- What is remembered is not aborted. -/
theorem remembered?_eq_none_of_cause? {c : Abort} (hc : cause? (attempt cfg enter m s) = some c) :
    remembered? cfg m s = none := by
  rcases attempt_cases cfg enter m s with ⟨_, -, hn, -⟩ | ⟨hs, -⟩
  · rw [hn] at hc
    cases hc
  · exact hs

/-- If an attempt is aborted, then one of a part that is tried. -/
theorem exists_tries_aborted (hr : m.isRule = false)
    (hparts : ∀ m' ∈ m.parts, Tells rules tokens F m' (attempt cfg enter m'))
    (h : s.Truthful rules tokens F) {c : Abort} (hc : cause? (attempt cfg enter m s) = some c) :
    ∃ m₁ s₀, Tries rules tokens m s.cursor m₁ s₀.cursor ∧ s₀.Truthful rules tokens F ∧
      cause? (attempt cfg enter m₁ s₀) = some c := by
  rw [attempt_of_remembered?_eq_none (remembered?_eq_none_of_cause? hc), cause?_concluded] at hc
  have h := h.announce m .entered
  obtain ⟨l, hl⟩ := treads_attemptShape hr hparts h
  have htrail := hl.trail
  rw [hc] at htrail
  obtain ⟨x, hx, s₀, hp, h₀, hc₀⟩ := htrail.exists_stopped h
    fun x hx _ _ hs => (hparts x.1 (hl.tries x hx).mem_parts hs).truthful_end
  have ht := hl.tries x hx
  rw [cursor_announce, ← hp] at ht
  exact ⟨x.1, s₀, ht, h₀, hc₀⟩

/-- If an attempt is not aborted, and what it comes to was not remembered, then everything that is
tried was tried, and not aborted either. -/
theorem forall_tries_not_aborted (hr : m.isRule = false)
    (hparts : ∀ m' ∈ m.parts, Tells rules tokens F m' (attempt cfg enter m'))
    (h : s.Truthful rules tokens F) (hs : remembered? cfg m s = none)
    (hc : cause? (attempt cfg enter m s) = none) {m₁ : Matcher} {p₁ : Nat}
    (ht : Tries rules tokens m s.cursor m₁ p₁) :
    ∃ s₀ : State, s₀.cursor = p₁ ∧ s₀.Truthful rules tokens F ∧
      cause? (attempt cfg enter m₁ s₀) = none := by
  rw [attempt_of_remembered?_eq_none hs, cause?_concluded] at hc
  have h := h.announce m .entered
  obtain ⟨l, hl⟩ := treads_attemptShape hr hparts h
  have ht : Tries rules tokens m (announce m .entered s).cursor m₁ p₁ := by
    rwa [cursor_announce]
  exact hl.trail.exists_tried hc h
    (fun x hx _ _ hs => (hparts x.1 (hl.tries x hx).mem_parts hs).truthful_end)
    (hl.mem_of_tries hc ht)

/-- A rule cannot be entered if no more may be, or if it is not defined. -/
theorem enterRule_stuck (cfg : Config) {depth : Nat} {name : String}
    (h : depth = 0 ∨ rules.lookup name = none) (s : State) :
    ∃ c, enterRule cfg rules depth name s = (.error (.abort c), s) := by
  cases depth with
  | zero => exact ⟨_, rfl⟩
  | succ depth =>
      have hn := h.resolve_left (Nat.succ_ne_zero depth)
      exact ⟨.undefinedRule name, by simp only [enterRule, hn]⟩

/-- A reference to such a rule is aborted, unless its outcome is remembered. -/
theorem exists_cause?_of_stuck {depth : Nat} {name : String}
    (h : depth = 0 ∨ rules.lookup name = none) (hs : remembered? cfg ⟨i, .rule name⟩ s = none) :
    ∃ c, cause? (attempt cfg (enterRule cfg rules depth) ⟨i, .rule name⟩ s) = some c := by
  obtain ⟨c, he⟩ := enterRule_stuck cfg h (announce ⟨i, .rule name⟩ .entered s)
  refine ⟨c, ?_⟩
  rw [attempt_of_remembered?_eq_none hs, cause?_concluded]
  show cause? (enterRule cfg rules depth name _) = some c
  rw [he]
  rfl

/-- Entering a rule is trying its body, up to the events and stamps. -/
theorem enterRule_of_lookup (cfg : Config) (depth : Nat) (s : State) {name : String}
    {body : Matcher} (hb : rules.lookup name = some body) :
    cause? (enterRule cfg rules (depth + 1) name s) =
        cause? (attempt cfg (enterRule cfg rules depth) body (s.report (.rule name) .entered)) ∧
      (attempt cfg (enterRule cfg rules depth) body (s.report (.rule name) .entered)).2.Alike
        (enterRule cfg rules (depth + 1) name s).2 := by
  simp only [enterRule]
  simp only [hb]
  generalize attempt cfg (enterRule cfg rules depth) body _ = e
  rcases e with ⟨(_ | _) | _, _⟩
  · exact ⟨rfl, .report _ _ _⟩
  · exact ⟨rfl, .refl _⟩
  · exact ⟨rfl, (State.Alike.report _ _ _).trans (.stamped _)⟩

/-- A reference to a rule is aborted if the body of the rule is. -/
theorem cause?_attempt_rule {i : Nat} {name : String} {body : Matcher} (depth : Nat)
    (hb : rules.lookup name = some body) (hs : remembered? cfg ⟨i, .rule name⟩ s = none) :
    ∃ s₀ : State, s₀.cursor = s.cursor ∧ s.Alike s₀ ∧
      cause? (attempt cfg (enterRule cfg rules (depth + 1)) ⟨i, .rule name⟩ s) =
        cause? (attempt cfg (enterRule cfg rules depth) body s₀) := by
  refine ⟨_, ?_, (State.Alike.announce s ⟨i, .rule name⟩ .entered).trans
    (.report _ (.rule name) .entered), ?_⟩
  · simp
  · rw [attempt_of_remembered?_eq_none hs, cause?_concluded]
    exact (enterRule_of_lookup _ _ _ hb).1

end Packrat
