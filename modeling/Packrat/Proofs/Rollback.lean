import Packrat.Parse

/-!
# Proofs — Rollback

Whatever an attempt does on its way, what it leaves behind is in order.  A state is *good* when
its cursor is at a token or after the last one, and every remembered outcome lies between the
position it is remembered for and the end of the tokens, with no remembered failure beyond the
furthest one.

**Rollback** (`attemptWith_rolls_back`): an attempt takes a good state to a good state.  If it
fails or is aborted, the cursor is where it was; if it matches, the cursor is at the end of the
match, not before the start.  The furthest failure never recedes, and nothing remembered is
forgotten or changed.

Inside a matcher the cursor may be left anywhere (`Kept`): a sequence that fails leaves it after
the parts that matched.  It is `settled` that puts it back, once for all shapes.
-/

namespace Packrat

/-! ### Good states -/

/-- The cursor and all that is remembered lie within the tokens. -/
structure State.Good (s : State) : Prop where
  cursor_le : s.cursor ≤ s.tokens.size
  matched : ∀ {id q r}, s.outcomeAt? id q = some (.matched r) →
    q ≤ r.stop ∧ r.stop ≤ s.tokens.size
  failed : ∀ {id q p}, s.outcomeAt? id q = some (.failed p) →
    q ≤ p ∧ p ≤ s.tokens.size ∧ p ≤ s.deepest

/-- `s'` is over the same tokens, remembers all that `s` does, and its furthest failure is no less
far. -/
structure State.Extends (s s' : State) : Prop where
  tokens_eq : s'.tokens = s.tokens
  deepest_le : s.deepest ≤ s'.deepest
  outcomes : ∀ {id q o}, s.outcomeAt? id q = some o → s'.outcomeAt? id q = some o

namespace State

theorem Extends.refl (s : State) : s.Extends s :=
  ⟨rfl, Nat.le_refl _, fun h => h⟩

theorem Extends.trans {s s₁ s₂ : State} (h : s.Extends s₁) (h' : s₁.Extends s₂) :
    s.Extends s₂ :=
  ⟨h'.tokens_eq.trans h.tokens_eq, Nat.le_trans h.deepest_le h'.deepest_le,
    fun ho => h'.outcomes (h.outcomes ho)⟩

theorem extends_moveTo (s : State) (p : Nat) : s.Extends (s.moveTo p) :=
  ⟨rfl, Nat.le_refl _, fun h => h⟩

theorem extends_stamped (s : State) : s.Extends s.stamped :=
  ⟨rfl, Nat.le_refl _, fun h => h⟩

theorem extends_report (s : State) (subject : Subject) (phase : Phase) :
    s.Extends (s.report subject phase) :=
  ⟨rfl, Nat.le_refl _, fun h => h⟩

theorem extends_recordFailure (s : State) (p : Nat) : s.Extends (s.recordFailure p) :=
  ⟨rfl, Nat.le_max_left _ _, fun h => h⟩

theorem extends_announce (m : Matcher) (phase : Phase) (s : State) :
    s.Extends (Attempt.announce m phase s) :=
  ⟨by simp, by simp, fun h => by simpa using h⟩

/-- A good state stays good under a change of what nothing remembered depends on. -/
theorem Good.of_same {s s' : State} (h : s.Good) (ht : s'.tokens = s.tokens)
    (hc : s'.cursor ≤ s.tokens.size) (hd : s.deepest ≤ s'.deepest)
    (ho : ∀ id q, s'.outcomeAt? id q = s.outcomeAt? id q) : s'.Good where
  cursor_le := ht ▸ hc
  matched := fun e => ht ▸ h.matched (ho _ _ ▸ e)
  failed := fun e => by
    obtain ⟨h₁, h₂, h₃⟩ := h.failed (ho _ _ ▸ e)
    exact ⟨h₁, ht ▸ h₂, Nat.le_trans h₃ hd⟩

theorem Good.moveTo {s : State} (h : s.Good) {p : Nat} (hp : p ≤ s.tokens.size) :
    (s.moveTo p).Good :=
  h.of_same rfl hp (Nat.le_refl _) fun _ _ => rfl

theorem Good.stamped {s : State} (h : s.Good) : s.stamped.Good :=
  h.of_same rfl h.cursor_le (Nat.le_refl _) fun _ _ => rfl

theorem Good.report {s : State} (h : s.Good) (subject : Subject) (phase : Phase) :
    (s.report subject phase).Good :=
  h.of_same rfl h.cursor_le (Nat.le_refl _) fun _ _ => rfl

theorem Good.recordFailure {s : State} (h : s.Good) (p : Nat) : (s.recordFailure p).Good :=
  h.of_same rfl h.cursor_le (Nat.le_max_left _ _) fun _ _ => rfl

theorem Good.announce {s : State} (h : s.Good) (m : Matcher) (phase : Phase) :
    (Attempt.announce m phase s).Good :=
  h.of_same (by simp) (by simpa using h.cursor_le) (by simp) (by simp)

theorem good_start (tokens : List Token) (listening : Bool) : (start tokens listening).Good where
  cursor_le := Nat.zero_le _
  matched := fun e => by simp at e
  failed := fun e => by simp at e

/-- An outcome may be remembered for the position it starts at. -/
theorem Good.keep {s : State} (h : s.Good) (cfg : Config) (m : Matcher) {q : Nat} {o : Outcome}
    (hm : ∀ r, o = .matched r → q ≤ r.stop ∧ r.stop ≤ s.tokens.size)
    (hf : ∀ p, o = .failed p → q ≤ p ∧ p ≤ s.tokens.size ∧ p ≤ s.deepest) :
    (Attempt.keep cfg m q o s).Good where
  cursor_le := by simpa using h.cursor_le
  matched := fun {id q' r} e => by
    rw [Attempt.outcomeAt?_keep] at e
    rw [Attempt.tokens_keep]
    split at e
    · next hk => exact hk.2.2 ▸ hm r (Option.some.inj e)
    · exact h.matched e
  failed := fun {id q' p} e => by
    rw [Attempt.outcomeAt?_keep] at e
    rw [Attempt.tokens_keep, Attempt.deepest_keep]
    split at e
    · next hk => exact hk.2.2 ▸ hf p (Option.some.inj e)
    · exact h.failed e

/-- Remembering an outcome where none was remembered leaves all others in place. -/
theorem Extends.keep {s s' : State} (h : s.Extends s') {cfg : Config} {m : Matcher} {q : Nat}
    (hn : cfg.memoize = true → s.outcomeAt? m.id q = none) (o : Outcome) :
    s.Extends (Attempt.keep cfg m q o s') where
  tokens_eq := by simpa using h.tokens_eq
  deepest_le := by simpa using h.deepest_le
  outcomes := fun {id q' o'} e => by
    rw [Attempt.outcomeAt?_keep]
    split
    · next hk =>
      obtain ⟨hc, rfl, rfl⟩ := hk
      rw [hn hc] at e
      cases e
    · exact h.outcomes e

theorem peek?_zero_lt {s : State} {t : Token} (h : s.peek? 0 = some t) :
    s.cursor < s.tokens.size :=
  (Array.getElem?_eq_some_iff.mp h).1

end State

/-! ### Inside a matcher -/

/-- How trying something in a good state may end, where the cursor is not put back yet.  `ends` ties
what was found to the cursor after it. -/
inductive Kept {α : Type} (ends : α → Nat → Prop) (s : State) : Ending α → Prop where
  | ok {a : α} {s' : State} (good : s'.Good) (ext : s.Extends s') (le : s.cursor ≤ s'.cursor)
      (found : ends a s'.cursor) : Kept ends s (.ok a, s')
  | backtrack {p : Nat} {s' : State} (good : s'.Good) (ext : s.Extends s') (le : s.cursor ≤ p)
      (le_size : p ≤ s.tokens.size) : Kept ends s (.error (.backtrack p), s')
  | abort {c : Abort} {s' : State} (good : s'.Good) (ext : s.Extends s') :
      Kept ends s (.error (.abort c), s')

/-- How an attempt in a good state may end: whatever is not a match leaves the cursor alone, and a
failure has been noted. -/
inductive RolledBack (s : State) : Ending Match → Prop where
  | ok {r : Match} {s' : State} (good : s'.Good) (ext : s.Extends s') (le : s.cursor ≤ r.stop)
      (stop : s'.cursor = r.stop) : RolledBack s (.ok r, s')
  | backtrack {p : Nat} {s' : State} (good : s'.Good) (ext : s.Extends s')
      (back : s'.cursor = s.cursor) (le : s.cursor ≤ p) (le_size : p ≤ s.tokens.size)
      (noted : p ≤ s'.deepest) : RolledBack s (.error (.backtrack p), s')
  | abort {c : Abort} {s' : State} (good : s'.Good) (ext : s.Extends s')
      (back : s'.cursor = s.cursor) : RolledBack s (.error (.abort c), s')

/-- A match ends at the cursor. -/
abbrev Match.EndsAt (r : Match) (cursor : Nat) : Prop :=
  cursor = r.stop

/-- An attempt that rolls back in every good state. -/
def RollsBack (x : Attempt Match) : Prop :=
  ∀ ⦃s : State⦄, s.Good → RolledBack s (x s)

theorem RolledBack.kept {s : State} {e : Ending Match} (h : RolledBack s e) :
    Kept Match.EndsAt s e := by
  cases h with
  | ok good ext le stop => exact .ok good ext (stop ▸ le) stop
  | backtrack good ext _ le le_size _ => exact .backtrack good ext le le_size
  | abort good ext _ => exact .abort good ext

namespace Kept

variable {α β : Type} {ends : α → Nat → Prop} {ends' : β → Nat → Prop} {s s₁ : State}

/-- What is kept after moving on is kept from the start. -/
theorem of_extends {e : Ending α} (h : Kept ends s₁ e) (ext : s.Extends s₁)
    (le : s.cursor ≤ s₁.cursor) : Kept ends s e := by
  cases h with
  | ok good ext' le' found => exact .ok good (ext.trans ext') (Nat.le_trans le le') found
  | backtrack good ext' le' le_size =>
      exact .backtrack good (ext.trans ext') (Nat.le_trans le le') (ext.tokens_eq ▸ le_size)
  | abort good ext' => exact .abort good (ext.trans ext')

theorem andThen {x : Attempt α} {f : α → Attempt β} (hx : Kept ends s (x s))
    (hf : ∀ a s', s'.Good → ends a s'.cursor → Kept ends' s' (f a s')) :
    Kept ends' s (x.andThen f s) := by
  simp only [Attempt.andThen]
  generalize x s = e at hx ⊢
  cases hx with
  | ok good ext le found => exact (hf _ _ good found).of_extends ext le
  | backtrack good ext le le_size => exact .backtrack good ext le le_size
  | abort good ext => exact .abort good ext

end Kept

/-! ### Each way of trying -/

section

open Attempt

variable {s : State} {x : Attempt Match}

theorem kept_produce (h : s.Good) (node : Node) (trivia : List (Trivia Token)) :
    Kept Match.EndsAt s (produce node trivia s.cursor s) :=
  .ok h.stamped s.extends_stamped (Nat.le_refl _) rfl

theorem kept_failHere (h : s.Good) : Kept Match.EndsAt s (failHere s) :=
  .backtrack h (.refl s) (Nat.le_refl _) h.cursor_le

theorem kept_oneToken (h : s.Good) (test : Token → Bool) :
    Kept Match.EndsAt s (oneToken test s) := by
  simp only [oneToken]
  split
  · next t ht =>
    have hlt := s.peek?_zero_lt ht
    split
    · exact (kept_produce (h.moveTo hlt) _ _).of_extends (s.extends_moveTo _) (Nat.le_succ _)
    · exact kept_failHere h
  · exact kept_failHere h

theorem kept_orNothing (hx : RollsBack x) (h : s.Good) :
    Kept Match.EndsAt s (orNothing x s) := by
  simp only [orNothing, thenFrom]
  have hx := hx h
  generalize x s = e at hx ⊢
  cases hx with
  | ok good ext le stop => exact .ok good ext (stop ▸ le) stop
  | backtrack good ext back _ _ _ =>
      exact .ok good.stamped (ext.trans (State.extends_stamped _)) (Nat.le_of_eq back.symm) back
  | abort good ext _ => exact .abort good ext

theorem kept_ahead (hx : RollsBack x) (h : s.Good) : Kept Match.EndsAt s (ahead x s) := by
  simp only [ahead, thenFrom]
  have hx := hx h
  generalize x s = e at hx ⊢
  cases hx with
  | ok good ext _ _ =>
      -- going back is going to a place within the tokens
      have hc : s.cursor ≤ _ := ext.tokens_eq ▸ h.cursor_le
      exact .ok (good.moveTo hc).stamped
        ((ext.trans (State.extends_moveTo _ _)).trans (State.extends_stamped _))
        (Nat.le_refl _) rfl
  | backtrack good ext _ le le_size _ => exact .backtrack good ext le le_size
  | abort good ext _ => exact .abort good ext

theorem kept_notAhead (hx : RollsBack x) (h : s.Good) :
    Kept Match.EndsAt s (notAhead x s) := by
  simp only [notAhead, thenFrom]
  have hx := hx h
  generalize x s = e at hx ⊢
  cases hx with
  | ok good ext _ _ =>
      have hc : s.cursor ≤ _ := ext.tokens_eq ▸ h.cursor_le
      exact .backtrack (good.moveTo hc) (ext.trans (State.extends_moveTo _ _)) (Nat.le_refl _)
        h.cursor_le
  | backtrack good ext back _ _ _ =>
      exact .ok good.stamped (ext.trans (State.extends_stamped _)) (Nat.le_of_eq back.symm) back
  | abort good ext _ => exact .abort good ext

theorem kept_remade (hx : RollsBack x) (h : s.Good)
    (make : Match → List Token → Node × List (Trivia Token)) :
    Kept Match.EndsAt s (remade make x s) := by
  simp only [remade, thenFrom]
  have hx := hx h
  generalize x s = e at hx ⊢
  cases hx with
  | ok good ext le stop =>
      exact .ok good.stamped (ext.trans (State.extends_stamped _)) (stop ▸ le) stop
  | backtrack good ext _ le le_size _ => exact .backtrack good ext le le_size
  | abort good ext _ => exact .abort good ext

theorem kept_ifAdjacent (hx : RollsBack x) (h : s.Good) :
    Kept Match.EndsAt s (ifAdjacent x s) := by
  simp only [ifAdjacent]
  split
  · split
    · exact (hx h).kept
    · exact kept_failHere h
  · exact kept_failHere h

/-- A repetition of rounds may end after any of them. -/
theorem kept_afterRound {more : Attempt (List Match)}
    (hmore : ∀ {s : State}, s.Good → Kept (fun _ _ => True) s (more s)) {e : Ending Match}
    (he : Kept Match.EndsAt s e) : Kept (fun _ _ => True) s (afterRound more s.cursor e) := by
  simp only [afterRound]
  cases he with
  | @ok r s' good ext le _ =>
      show Kept _ s (if r.stop = s.cursor then _ else _)
      split
      · exact .ok good ext le trivial
      -- what the other rounds keep is kept from the first on
      · exact (Kept.andThen (hmore good) fun _ s' h _ =>
          Kept.ok h (.refl s') (Nat.le_refl _) trivial).of_extends ext le
  | backtrack good ext le le_size => exact .backtrack good ext le le_size
  | abort good ext => exact .abort good ext

theorem kept_rounds (hx : RollsBack x) :
    ∀ (fuel : Nat) {s : State}, s.Good → Kept (fun _ _ => True) s (rounds x fuel s)
  | 0, s, h => .ok h (.refl s) (Nat.le_refl _) trivial
  | fuel + 1, s, h => by
      have ih := fun {s} => kept_rounds hx fuel (s := s)
      simp only [rounds, thenFrom]
      have hx := hx h
      generalize x s = e at hx ⊢
      cases hx with
      | ok good ext le stop => exact kept_afterRound ih (.ok good ext (stop ▸ le) stop)
      | backtrack good ext back _ _ _ => exact .ok good ext (Nat.le_of_eq back.symm) trivial
      | abort good ext _ => exact .abort good ext

theorem kept_zeroOrMore (hx : RollsBack x) (h : s.Good) :
    Kept (fun _ _ => True) s (zeroOrMore x s) :=
  kept_rounds hx _ h

theorem kept_oneOrMore (hx : RollsBack x) (h : s.Good) :
    Kept (fun _ _ => True) s (oneOrMore x s) :=
  kept_afterRound (kept_zeroOrMore hx) (hx h).kept

theorem kept_grouped {y : Attempt (List Match)} (hy : Kept (fun _ _ => True) s (y s)) :
    Kept Match.EndsAt s (y.andThen grouped s) :=
  hy.andThen fun _ _ h _ => kept_produce h _ _

end

/-! ### Matchers and rules -/

section

open Attempt

variable {cfg : Config} {enter : String → Attempt Match}

/-- Whatever is done inside, `settled` puts the cursor back. -/
theorem rollsBack_settled {m : Matcher} {x : Attempt Match}
    (hx : ∀ {s : State}, s.Good → Kept Match.EndsAt s (x s)) : RollsBack (settled cfg m x) := by
  intro s h
  simp only [settled]
  split
  · next r hr =>
    obtain ⟨le, le_size⟩ := h.matched (remembered?_eq_some_iff.mp hr).2
    exact .ok (h.moveTo le_size) (s.extends_moveTo _) le rfl
  · next p hp =>
    obtain ⟨le, le_size, noted⟩ := h.failed (remembered?_eq_some_iff.mp hp).2
    exact .backtrack h (.refl s) rfl le le_size noted
  · -- what was not remembered is free to be remembered now
    next hn =>
    have hn : cfg.memoize = true → s.outcomeAt? m.id s.cursor = none := fun hc => by
      simpa [remembered?, hc] using hn
    simp only [thenFrom]
    have hx := hx (h.announce m .entered)
    rw [cursor_announce]
    generalize x (announce m .entered s) = e at hx ⊢
    have hext := State.extends_announce m .entered s
    cases hx with
    | @ok r s' good ext le stop =>
        have ext' := (hext.trans ext).trans (State.extends_announce m (.matched r.node) s')
        rw [cursor_announce, stop] at le
        refine .ok ((good.announce m _).keep cfg m ?_ ?_) (ext'.keep hn _) le (by simpa using stop)
        · rintro _ ⟨⟩
          exact ⟨le, by simpa using stop ▸ good.cursor_le⟩
        · rintro _ ⟨⟩
    | @backtrack p s' good ext le le_size =>
        have ext := hext.trans ext
        have ext' := ((ext.trans (State.extends_moveTo s' s.cursor)).trans
          (State.extends_recordFailure _ p)).trans (State.extends_announce m (.failed p) _)
        have good' := (good.moveTo (ext.tokens_eq ▸ h.cursor_le)).recordFailure p
        rw [cursor_announce] at le
        rw [tokens_announce] at le_size
        refine .backtrack ((good'.announce m _).keep cfg m ?_ ?_) (ext'.keep hn _) (by simp) le
          le_size (by rw [deepest_keep, deepest_announce]; exact Nat.le_max_right _ _)
        · rintro _ ⟨⟩
        · rintro _ ⟨⟩
          exact ⟨le, by simpa [ext.tokens_eq] using le_size,
            by rw [deepest_announce]; exact Nat.le_max_right _ _⟩
    | @abort c s' good ext =>
        have ext := hext.trans ext
        exact .abort (good.moveTo (ext.tokens_eq ▸ h.cursor_le))
          (ext.trans (State.extends_moveTo s' s.cursor)) rfl

theorem kept_attemptAll {ms : List Matcher}
    (hms : ∀ m ∈ ms, RollsBack (attempt cfg enter m)) :
    ∀ {s : State}, s.Good → Kept (fun _ _ => True) s (attemptAll cfg enter ms s) := by
  induction ms with
  | nil => exact fun {s} h => .ok h (.refl s) (Nat.le_refl _) trivial
  | cons m ms ih =>
      intro s h
      obtain ⟨hm, hms⟩ := List.forall_mem_cons.mp hms
      refine Kept.andThen (hm h).kept fun r s' h' _ => ?_
      exact Kept.andThen (ih hms h') fun _ s'' h'' _ => .ok h'' (.refl s'') (Nat.le_refl _) trivial

/-- The alternatives all start at the same place, as those that fail put the cursor back. -/
theorem kept_attemptFirst {ms : List Matcher}
    (hms : ∀ m ∈ ms, RollsBack (attempt cfg enter m)) :
    ∀ {deepest : Nat} {s : State}, s.Good → s.cursor ≤ deepest → deepest ≤ s.tokens.size →
      Kept Match.EndsAt s (attemptFirst cfg enter deepest ms s) := by
  induction ms with
  | nil => exact fun {_ s} h le le_size => .backtrack h (.refl s) le le_size
  | cons m ms ih =>
      intro deepest s h le le_size
      obtain ⟨hm, hms⟩ := List.forall_mem_cons.mp hms
      simp only [attemptFirst]
      have hm := hm h
      generalize attempt cfg enter m s = e at hm ⊢
      cases hm with
      | ok good ext le stop => exact .ok good ext (stop ▸ le) stop
      | backtrack good ext back le' le_size' _ =>
          -- the next alternative starts at the same cursor
          refine (ih hms good (back ▸ ?_) (ext.tokens_eq ▸ ?_)).of_extends ext
            (Nat.le_of_eq back.symm)
          · exact Nat.le_trans le (Nat.le_max_left _ _)
          · exact Nat.max_le.mpr ⟨le_size, le_size'⟩
      | abort good ext _ => exact .abort good ext

theorem kept_attemptShape {shape : Shape Matcher}
    (hparts : ∀ m ∈ shape.parts, RollsBack (attempt cfg enter m))
    (henter : ∀ name {s : State}, s.Good → Kept Match.EndsAt s (enter name s))
    {s : State} (h : s.Good) : Kept Match.EndsAt s (attemptShape cfg enter shape s) := by
  cases shape with
  | literal | pattern | ofKind => exact kept_oneToken h _
  | sequence ms => exact kept_grouped (kept_attemptAll hparts h)
  | firstOf ms => exact kept_attemptFirst hparts h (Nat.le_refl _) h.cursor_le
  | optional m => exact kept_orNothing (hparts m (List.mem_singleton_self m)) h
  | oneOrMore m => exact kept_grouped (kept_oneOrMore (hparts m (List.mem_singleton_self m)) h)
  | zeroOrMore m => exact kept_grouped (kept_zeroOrMore (hparts m (List.mem_singleton_self m)) h)
  | next m => exact kept_ahead (hparts m (List.mem_singleton_self m)) h
  | nextNot m => exact kept_notAhead (hparts m (List.mem_singleton_self m)) h
  | endOfInput =>
      show Kept _ s (if _ then _ else _)
      split
      · exact kept_produce h _ _
      · exact kept_failHere h
  | nothing => exact kept_produce h _ _
  | token kind m =>
      show Kept _ s (asToken kind _ s)
      exact kept_remade (hparts m (List.mem_singleton_self m)) h _
  | trivia kind m =>
      show Kept _ s (asTrivia kind _ s)
      exact kept_remade (hparts m (List.mem_singleton_self m)) h _
  | adjacent m => exact kept_ifAdjacent (hparts m (List.mem_singleton_self m)) h
  | rule name => exact henter name h

/-- **One level of rules.**  If entering a rule keeps good states good, every matcher rolls back. -/
theorem rollsBack_attempt
    (henter : ∀ name {s : State}, s.Good → Kept Match.EndsAt s (enter name s)) :
    ∀ m : Matcher, RollsBack (attempt cfg enter m) :=
  Matcher.induction_parts fun m ih => by
    rw [attempt_eq]
    exact rollsBack_settled (kept_attemptShape ih henter)

/-- **All levels of rules**, by induction on how many may still be entered. -/
theorem kept_enterRule (rules : List (String × Matcher)) :
    ∀ (depth : Nat) (name : String) {s : State}, s.Good →
      Kept Match.EndsAt s (enterRule cfg rules depth name s)
  | 0, _, s, h => .abort h (.refl s)
  | depth + 1, name, s, h => by
      simp only [enterRule]
      split
      · exact .abort h (.refl s)
      · next body _ =>
        have hb := @rollsBack_attempt cfg _ (kept_enterRule rules depth) body _
          (h.report (.rule name) .entered)
        generalize attempt cfg (enterRule cfg rules depth) body _ = e at hb ⊢
        have hext := State.extends_report s (.rule name) .entered
        cases hb with
        | ok good ext le stop =>
            refine .ok (good.report _ _).stamped ?_ (stop ▸ le) stop
            exact ((hext.trans ext).trans (State.extends_report _ _ _)).trans
              (State.extends_stamped _)
        | backtrack good ext _ le le_size _ =>
            refine .backtrack (good.report _ _) ?_ le le_size
            exact (hext.trans ext).trans (State.extends_report _ _ _)
        | abort good ext _ => exact .abort good (hext.trans ext)

end

/-- **Rollback.**  With any rules and any configuration, an attempt of any matcher in a good state
ends in one of the three ways of `RolledBack`. -/
theorem attemptWith_rolls_back (cfg : Config) (rules : List (String × Matcher)) (m : Matcher)
    {s : State} (h : s.Good) : RolledBack s (attemptWith cfg rules m s) :=
  rollsBack_attempt (kept_enterRule rules cfg.maxDepth) m h

/-- After two tokens were read, one of which a matcher failed at. -/
theorem rolls_back_after_failure :
    let t : Token := .ofText .identifier "a" .origin
    let s := (((State.start [t, t] false).moveTo 2).recordFailure 1).remember 7 1 (.failed 1)
    s.Good ∧ RolledBack s (attemptWith .standard [] ⟨8, .literal "a"⟩ s) := by
  intro t s
  have h : s.Good := by
    refine ((State.good_start [t, t] false).moveTo (by decide)).recordFailure 1 |>.keep .standard
      ⟨7, .nothing⟩ ?_ ?_
    · rintro _ ⟨⟩
    · rintro _ ⟨⟩
      decide
  exact ⟨h, attemptWith_rolls_back .standard [] ⟨8, .literal "a"⟩ h⟩

end Packrat
