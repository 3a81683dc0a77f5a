import Packrat.Proofs.Rollback

/-!
# Proofs — Steps — Pace

How far the cursor gets.  The memo may hold anything here, as long as no match in it ends before the
position it is remembered for: the state is *ordered*.  Matches may even end after the last token.
But there is a furthest of these ends, and no attempt gets beyond that, or beyond the last token, or
beyond where it started: this is the `limit` of the state.

**Pace** (`keepsPace_attempt`): an attempt in an ordered state leaves an ordered state whose limit
is no further.  If it matches, the cursor did not go back; if it fails, the cursor is where it was.
-/

namespace Packrat

open Attempt

namespace State

/-- No match that is remembered ends before its position. -/
def Ordered (s : State) : Prop :=
  ∀ id q r, s.outcomeAt? id q = some (.matched r) → q ≤ r.stop

/-- How far the cursor may get. -/
def limit (s : State) : Nat :=
  max s.reach s.cursor

/-- `s'` is ordered, and its limit is no further. -/
structure Within (s s' : State) : Prop where
  ordered : s'.Ordered
  limit_le : s'.limit ≤ s.limit

variable {s s₁ s' : State}

theorem cursor_le_limit (s : State) : s.cursor ≤ s.limit :=
  Nat.le_max_right _ _

/-- What is remembered ends before the limit. -/
theorem stop_le_limit {id q : Nat} {r : Match} (h : s.outcomeAt? id q = some (.matched r)) :
    r.stop ≤ s.limit :=
  Nat.le_trans (s.stop_le_reach h) (Nat.le_max_left _ _)

theorem lt_limit_of_peek? {t : Token} (h : s.peek? 0 = some t) : s.cursor < s.limit :=
  Nat.lt_of_lt_of_le (Array.getElem?_eq_some_iff.mp h).1
    (Nat.le_trans s.size_le_reach (Nat.le_max_left _ _))

namespace Within

theorem refl (h : s.Ordered) : s.Within s :=
  ⟨h, Nat.le_refl _⟩

theorem trans (h : s.Within s₁) (h' : s₁.Within s') : s.Within s' :=
  ⟨h'.ordered, Nat.le_trans h'.limit_le h.limit_le⟩

theorem cursor_le (h : s.Within s₁) : s₁.cursor ≤ s.limit :=
  Nat.le_trans s₁.cursor_le_limit h.limit_le

/-- Where nothing is remembered, the cursor may go anywhere up to the limit. -/
theorem of_same (h : s.Within s₁) (ho : ∀ id q, s'.outcomeAt? id q = s₁.outcomeAt? id q)
    (hr : s'.reach = s₁.reach) (hc : s'.cursor ≤ s.limit) : s.Within s' where
  ordered := fun id q r hq => h.ordered id q r (ho id q ▸ hq)
  limit_le := Nat.max_le.mpr ⟨hr ▸ Nat.le_trans (Nat.le_max_left _ _) h.limit_le, hc⟩

theorem moveTo (h : s.Within s₁) {p : Nat} (hp : p ≤ s.limit) : s.Within (s₁.moveTo p) :=
  h.of_same (fun _ _ => rfl) rfl hp

theorem stamped (h : s.Within s₁) : s.Within s₁.stamped :=
  h.of_same (fun _ _ => rfl) rfl h.cursor_le

theorem report (h : s.Within s₁) (subject : Subject) (phase : Phase) :
    s.Within (s₁.report subject phase) :=
  h.of_same (fun _ _ => rfl) rfl h.cursor_le

theorem recordFailure (h : s.Within s₁) (p : Nat) : s.Within (s₁.recordFailure p) :=
  h.of_same (fun _ _ => rfl) rfl h.cursor_le

theorem announce (h : s.Within s₁) (m : Matcher) (phase : Phase) :
    s.Within (Attempt.announce m phase s₁) := by
  unfold Attempt.announce
  split
  · exact h
  · exact h.report _ _

/-- Outcomes may be remembered that keep to the order and the limit. -/
theorem keep (h : s.Within s₁) (cfg : Config) (m : Matcher) {q : Nat} {o : Outcome}
    (ho : ∀ r, o = .matched r → q ≤ r.stop ∧ r.stop ≤ s.limit) :
    s.Within (Attempt.keep cfg m q o s₁) where
  ordered := fun id q' r hq => by
    rw [outcomeAt?_keep] at hq
    split at hq
    · next hk =>
      obtain ⟨-, -, rfl⟩ := hk
      exact (ho r (Option.some.inj hq)).1
    · exact h.ordered id q' r hq
  limit_le := by
    have hreach := Nat.le_trans (Nat.le_max_left _ _) h.limit_le
    unfold Attempt.keep
    split
    · cases o with
      | matched r => exact Nat.max_le.mpr ⟨Nat.max_le.mpr ⟨hreach, (ho r rfl).2⟩, h.cursor_le⟩
      | failed p => exact Nat.max_le.mpr ⟨hreach, h.cursor_le⟩
    · exact h.limit_le

end Within

end State

/-! ### How attempts end -/

/-- How trying what is inside of a matcher may end in an ordered state. -/
inductive Paced {α : Type} (ends : α → Nat → Prop) (s : State) : Ending α → Prop where
  | ok {a : α} {s' : State} (within : s.Within s') (le : s.cursor ≤ s'.cursor)
      (found : ends a s'.cursor) : Paced ends s (.ok a, s')
  | backtrack {p : Nat} {s' : State} (within : s.Within s') :
      Paced ends s (.error (.backtrack p), s')
  | abort {c : Abort} {s' : State} : Paced ends s (.error (.abort c), s')

/-- How trying a matcher may end in an ordered state. -/
inductive PacedBack (s : State) : Ending Match → Prop where
  | ok {r : Match} {s' : State} (within : s.Within s') (le : s.cursor ≤ r.stop)
      (stop : s'.cursor = r.stop) : PacedBack s (.ok r, s')
  | backtrack {p : Nat} {s' : State} (within : s.Within s') (back : s'.cursor = s.cursor) :
      PacedBack s (.error (.backtrack p), s')
  | abort {c : Abort} {s' : State} : PacedBack s (.error (.abort c), s')

/-- An attempt that keeps pace in every ordered state. -/
def KeepsPace (x : Attempt Match) : Prop :=
  ∀ ⦃s : State⦄, s.Ordered → PacedBack s (x s)

variable {α β : Type} {ends : α → Nat → Prop} {ends' : β → Nat → Prop} {s s₁ : State}
  {x : Attempt Match}

theorem PacedBack.paced {e : Ending Match} (h : PacedBack s e) : Paced Match.EndsAt s e := by
  cases h with
  | ok within le stop => exact .ok within (stop ▸ le) stop
  | backtrack within _ => exact .backtrack within
  | abort => exact .abort

namespace Paced

theorem of_within {e : Ending α} (h : Paced ends s₁ e) (hw : s.Within s₁)
    (le : s.cursor ≤ s₁.cursor) : Paced ends s e := by
  cases h with
  | ok within le' found => exact .ok (hw.trans within) (Nat.le_trans le le') found
  | backtrack within => exact .backtrack (hw.trans within)
  | abort => exact .abort

theorem andThen {x : Attempt α} {f : α → Attempt β} (hx : Paced ends s (x s))
    (hf : ∀ a s', s'.Ordered → Paced ends' s' (f a s')) : Paced ends' s (x.andThen f s) := by
  simp only [Attempt.andThen]
  generalize x s = e at hx ⊢
  cases hx with
  | ok within le _ => exact (hf _ _ within.ordered).of_within within le
  | backtrack within => exact .backtrack within
  | abort => exact .abort

end Paced

/-! ### Each way of trying -/

theorem paced_produce (h : s.Ordered) (node : Node) (trivia : List (Trivia Token)) :
    Paced Match.EndsAt s (produce node trivia s.cursor s) :=
  .ok (State.Within.refl h).stamped (Nat.le_refl _) rfl

theorem paced_failHere (h : s.Ordered) : Paced Match.EndsAt s (failHere s) :=
  .backtrack (.refl h)

theorem paced_oneToken (h : s.Ordered) (test : Token → Bool) :
    Paced Match.EndsAt s (oneToken test s) := by
  simp only [oneToken]
  split
  · next t ht =>
    split
    · have hw := (State.Within.refl h).moveTo (State.lt_limit_of_peek? ht)
      exact (paced_produce hw.ordered _ _).of_within hw (Nat.le_succ _)
    · exact paced_failHere h
  · exact paced_failHere h

theorem paced_orNothing (hx : KeepsPace x) (h : s.Ordered) :
    Paced Match.EndsAt s (orNothing x s) := by
  simp only [orNothing, thenFrom]
  have hx := hx h
  generalize x s = e at hx ⊢
  cases hx with
  | ok within le stop => exact .ok within (stop ▸ le) stop
  | backtrack within back => exact .ok within.stamped (Nat.le_of_eq back.symm) back
  | abort => exact .abort

theorem paced_ahead (hx : KeepsPace x) (h : s.Ordered) : Paced Match.EndsAt s (ahead x s) := by
  simp only [ahead, thenFrom]
  have hx := hx h
  generalize x s = e at hx ⊢
  cases hx with
  | ok within _ _ =>
      exact .ok (within.moveTo s.cursor_le_limit).stamped (Nat.le_refl _) rfl
  | backtrack within _ => exact .backtrack within
  | abort => exact .abort

theorem paced_notAhead (hx : KeepsPace x) (h : s.Ordered) :
    Paced Match.EndsAt s (notAhead x s) := by
  simp only [notAhead, thenFrom]
  have hx := hx h
  generalize x s = e at hx ⊢
  cases hx with
  | ok within _ _ => exact .backtrack (within.moveTo s.cursor_le_limit)
  | backtrack within back => exact .ok within.stamped (Nat.le_of_eq back.symm) back
  | abort => exact .abort

theorem paced_remade (hx : KeepsPace x) (h : s.Ordered)
    (make : Match → List Token → Node × List (Trivia Token)) :
    Paced Match.EndsAt s (remade make x s) := by
  simp only [remade, thenFrom]
  have hx := hx h
  generalize x s = e at hx ⊢
  cases hx with
  | ok within le stop => exact .ok within.stamped (stop ▸ le) stop
  | backtrack within _ => exact .backtrack within
  | abort => exact .abort

theorem paced_ifAdjacent (hx : KeepsPace x) (h : s.Ordered) :
    Paced Match.EndsAt s (ifAdjacent x s) := by
  simp only [ifAdjacent]
  split
  · split
    · exact (hx h).paced
    · exact paced_failHere h
  · exact paced_failHere h

/-- After a round of a repetition there may be more. -/
theorem paced_afterRound {more : Attempt (List Match)}
    (hmore : ∀ {s : State}, s.Ordered → Paced (fun _ _ => True) s (more s)) {e : Ending Match}
    (he : Paced Match.EndsAt s e) : Paced (fun _ _ => True) s (afterRound more s.cursor e) := by
  simp only [afterRound]
  cases he with
  | @ok r s' within le _ =>
      show Paced _ s (if r.stop = s.cursor then _ else _)
      split
      · exact .ok within le trivial
      · exact (Paced.andThen (hmore within.ordered) fun _ _ h =>
          Paced.ok (.refl h) (Nat.le_refl _) trivial).of_within within le
  | backtrack within => exact .backtrack within
  | abort => exact .abort

theorem paced_rounds (hx : KeepsPace x) :
    ∀ (fuel : Nat) {s : State}, s.Ordered → Paced (fun _ _ => True) s (rounds x fuel s)
  | 0, s, h => .ok (.refl h) (Nat.le_refl _) trivial
  | fuel + 1, s, h => by
      have ih := fun {s} => paced_rounds hx fuel (s := s)
      simp only [rounds, thenFrom]
      have hx := hx h
      generalize x s = e at hx ⊢
      cases hx with
      | ok within le stop => exact paced_afterRound ih (.ok within (stop ▸ le) stop)
      | backtrack within back => exact .ok within (Nat.le_of_eq back.symm) trivial
      | abort => exact .abort

theorem paced_oneOrMore (hx : KeepsPace x) (h : s.Ordered) :
    Paced (fun _ _ => True) s (oneOrMore x s) :=
  paced_afterRound (paced_rounds hx _) (hx h).paced

theorem paced_grouped {y : Attempt (List Match)} (hy : Paced (fun _ _ => True) s (y s)) :
    Paced Match.EndsAt s (y.andThen grouped s) :=
  hy.andThen fun _ _ h => paced_produce h _ _

/-! ### Matchers and rules -/

section

variable {cfg : Config} {enter : String → Attempt Match}

theorem keepsPace_settled {m : Matcher}
    (hx : ∀ {s : State}, s.Ordered → Paced Match.EndsAt s (x s)) :
    KeepsPace (settled cfg m x) := by
  intro s h
  simp only [settled]
  split
  · next r hr =>
    have hr := (remembered?_eq_some_iff.mp hr).2
    exact .ok ((State.Within.refl h).moveTo (State.stop_le_limit hr)) (h _ _ _ hr) rfl
  · exact .backtrack (.refl h) rfl
  · have hann := (State.Within.refl h).announce m .entered
    simp only [thenFrom]
    have hx := hx hann.ordered
    rw [cursor_announce]
    generalize x (announce m .entered s) = e at hx ⊢
    cases hx with
    | @ok r s' within le stop =>
        have hw := hann.trans within
        rw [cursor_announce, stop] at le
        refine .ok ((hw.announce m _).keep cfg m ?_) le (by simpa using stop)
        rintro _ ⟨⟩
        exact ⟨le, stop ▸ hw.cursor_le⟩
    | @backtrack p s' within =>
        have hw := (hann.trans within).moveTo s.cursor_le_limit
        refine .backtrack (((hw.recordFailure p).announce m _).keep cfg m ?_) (by simp)
        rintro _ ⟨⟩
    | abort => exact .abort

theorem paced_attemptAll {ms : List Matcher}
    (hms : ∀ m ∈ ms, KeepsPace (attempt cfg enter m)) :
    ∀ {s : State}, s.Ordered → Paced (fun _ _ => True) s (attemptAll cfg enter ms s) := by
  induction ms with
  | nil => exact fun {s} h => .ok (.refl h) (Nat.le_refl _) trivial
  | cons m ms ih =>
      intro s h
      obtain ⟨hm, hms⟩ := List.forall_mem_cons.mp hms
      refine Paced.andThen (hm h).paced fun r s' h' => ?_
      exact Paced.andThen (ih hms h') fun _ s'' h'' => .ok (.refl h'') (Nat.le_refl _) trivial

theorem paced_attemptFirst {ms : List Matcher}
    (hms : ∀ m ∈ ms, KeepsPace (attempt cfg enter m)) :
    ∀ {deepest : Nat} {s : State}, s.Ordered →
      Paced Match.EndsAt s (attemptFirst cfg enter deepest ms s) := by
  induction ms with
  | nil => exact fun {_ s} h => .backtrack (.refl h)
  | cons m ms ih =>
      intro deepest s h
      obtain ⟨hm, hms⟩ := List.forall_mem_cons.mp hms
      simp only [attemptFirst]
      have hm := hm h
      generalize attempt cfg enter m s = e at hm ⊢
      cases hm with
      | ok within le stop => exact .ok within (stop ▸ le) stop
      | backtrack within back =>
          -- the next alternative starts at the same cursor
          exact (ih hms within.ordered).of_within within (Nat.le_of_eq back.symm)
      | abort => exact .abort

theorem paced_attemptShape {shape : Shape Matcher}
    (hparts : ∀ m ∈ shape.parts, KeepsPace (attempt cfg enter m))
    (henter : ∀ name {s : State}, s.Ordered → Paced Match.EndsAt s (enter name s))
    {s : State} (h : s.Ordered) : Paced Match.EndsAt s (attemptShape cfg enter shape s) := by
  cases shape with
  | literal | pattern | ofKind => exact paced_oneToken h _
  | sequence ms => exact paced_grouped (paced_attemptAll hparts h)
  | firstOf ms => exact paced_attemptFirst hparts h
  | optional m => exact paced_orNothing (hparts m (List.mem_singleton_self m)) h
  | oneOrMore m => exact paced_grouped (paced_oneOrMore (hparts m (List.mem_singleton_self m)) h)
  | zeroOrMore m => exact paced_grouped (paced_rounds (hparts m (List.mem_singleton_self m)) _ h)
  | next m => exact paced_ahead (hparts m (List.mem_singleton_self m)) h
  | nextNot m => exact paced_notAhead (hparts m (List.mem_singleton_self m)) h
  | endOfInput =>
      show Paced _ s (if _ then _ else _)
      split
      · exact paced_produce h _ _
      · exact paced_failHere h
  | nothing => exact paced_produce h _ _
  | token kind m =>
      show Paced _ s (asToken kind _ s)
      exact paced_remade (hparts m (List.mem_singleton_self m)) h _
  | trivia kind m =>
      show Paced _ s (asTrivia kind _ s)
      exact paced_remade (hparts m (List.mem_singleton_self m)) h _
  | adjacent m => exact paced_ifAdjacent (hparts m (List.mem_singleton_self m)) h
  | rule name => exact henter name h

/-- **One level of rules.**  If entering a rule keeps pace, trying any matcher does. -/
theorem keepsPace_attempt_of_enter
    (henter : ∀ name {s : State}, s.Ordered → Paced Match.EndsAt s (enter name s)) :
    ∀ m : Matcher, KeepsPace (attempt cfg enter m) :=
  Matcher.induction_parts fun m ih => by
    rw [attempt_eq]
    exact keepsPace_settled (paced_attemptShape ih henter)

/-- **All levels of rules**, by induction on how many may still be entered. -/
theorem paced_enterRule (cfg : Config) (rules : List (String × Matcher)) :
    ∀ (depth : Nat) (name : String) {s : State}, s.Ordered →
      Paced Match.EndsAt s (enterRule cfg rules depth name s)
  | 0, _, _, _ => .abort
  | depth + 1, name, s, h => by
      simp only [enterRule]
      split
      · exact .abort
      · next body _ =>
        have hreport := (State.Within.refl h).report (.rule name) .entered
        have hb : PacedBack _ (attempt cfg (enterRule cfg rules depth) body _) :=
          keepsPace_attempt_of_enter (paced_enterRule cfg rules depth) body hreport.ordered
        generalize attempt cfg (enterRule cfg rules depth) body _ = e at hb ⊢
        cases hb with
        | ok within le stop =>
            exact .ok ((hreport.trans within).report _ _).stamped (stop ▸ le) stop
        | backtrack within _ => exact .backtrack ((hreport.trans within).report _ _)
        | abort => exact .abort

/-- **Pace**, with any number of rules that may still be entered. -/
theorem keepsPace_attempt (cfg : Config) (rules : List (String × Matcher)) (depth : Nat)
    (m : Matcher) : KeepsPace (attempt cfg (enterRule cfg rules depth) m) :=
  keepsPace_attempt_of_enter (paced_enterRule cfg rules depth) m

end

end Packrat
