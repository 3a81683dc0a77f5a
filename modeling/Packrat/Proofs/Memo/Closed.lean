import Packrat.Proofs.Peg.Trail

/-!
# Proofs — Memo — Closed

What is in the memo.  A state *holds* a matcher at a position if an outcome is remembered there, and
it is *closed* if with a matcher it holds everything that is visited from it.

* `stores_attempt`: an attempt that remembers outcomes adds only what it visits, and all of that
  unless it is aborted.  Aborted or not, it leaves a closed state.
* `cause?_attempt_of_ahead`: an attempt that is not aborted is not aborted either in a closed state
  that holds more, or where more rules may be entered.

The second goes by comparing two runs part by part.  Where the state that is ahead holds a matcher
that the other does not, it has all the outcomes that the other is about to add.
-/

namespace Packrat

open Attempt

variable {rules : List (String × Matcher)} {tokens : List Token} {F : Matcher → Prop}
  {cfg cfg' : Config} {how how' : Matcher → Attempt Match} {V V' : Matcher → Nat → Prop}
  {m : Matcher} {q : Nat} {c : Option Abort} {s s₁ s' : State} {l l' : List (Matcher × Nat)}
  {e : Ending Match}

/-- An outcome of the matcher at the position is remembered. -/
def State.Holds (s : State) (m : Matcher) (q : Nat) : Prop :=
  s.outcomeAt? m.id q ≠ none

section

variable (rules tokens F)

/-- Truthful, and everything that is visited from what is held is held. -/
structure State.Closed (s : State) : Prop extends s.Truthful rules tokens F where
  closed : ∀ {m q d m' q'}, F m → s.Holds m q → Visits rules tokens m q d m' q' → s.Holds m' q'

/-- From the one state to the other only what `V` says was added, and unless there is a cause of an
abort, all of it is held. -/
structure Stores (V : Matcher → Nat → Prop) (s : State) (c : Option Abort) (s' : State) :
    Prop where
  closed : s'.Closed rules tokens F
  keeps : ∀ {m q}, s.Holds m q → s'.Holds m q
  origin : ∀ {m q}, F m → s'.Holds m q → s.Holds m q ∨ V m q
  covers : c = none → ∀ {m q}, V m q → s'.Holds m q

/-- The first state holds what the second does, and both are closed. -/
structure State.Ahead (s' s : State) : Prop where
  closed : s'.Closed rules tokens F
  behind : s.Closed rules tokens F
  holds : ∀ {m q}, F m → s.Holds m q → s'.Holds m q

end

namespace State

theorem not_holds_start (listening : Bool) : ¬ (State.start tokens listening).Holds m q :=
  fun h => h (outcomeAt?_start _ _ _ _)

theorem closed_start (listening : Bool) :
    (State.start tokens listening).Closed rules tokens F where
  toTruthful := .start listening
  closed := fun _ h => absurd h (not_holds_start listening)

theorem Alike.holds_iff (h : s.Alike s') : s'.Holds m q ↔ s.Holds m q := by
  rw [Holds, Holds, h.outcomes_eq]

theorem Closed.of_same (h : s.Closed rules tokens F) (ht : s'.tokens = s.tokens)
    (ho : ∀ id q, s'.outcomeAt? id q = s.outcomeAt? id q) : s'.Closed rules tokens F where
  toTruthful := h.toTruthful.of_same ht ho
  closed := fun {m q d m' q'} hm hq hv => by
    have hq : s.Holds m q := by rwa [Holds, ho] at hq
    rw [Holds, ho]
    exact h.closed hm hq hv

theorem Alike.closed (ha : s.Alike s') (h : s.Closed rules tokens F) :
    s'.Closed rules tokens F :=
  h.of_same ha.tokens_eq ha.outcomes_eq

theorem holds_of_remembered? {o : Outcome} (h : remembered? cfg m s = some o) :
    s.Holds m s.cursor := by
  rw [Holds, (remembered?_eq_some_iff.mp h).2]
  nofun

theorem Closed.recordFailure (h : s.Closed rules tokens F) (p : Nat) :
    (s.recordFailure p).Closed rules tokens F :=
  h.of_same rfl fun _ _ => rfl

theorem holds_keep {m' : Matcher} {q' : Nat} {o : Outcome} (hmem : cfg.memoize = true) :
    (Attempt.keep cfg m q o s).Holds m' q' ↔ (m.id = m'.id ∧ q = q') ∨ s.Holds m' q' := by
  rw [Holds, outcomeAt?_keep]
  by_cases h : m.id = m'.id ∧ q = q'
  · simp [hmem, h]
  · rw [if_neg fun hc => h hc.2]
    exact ⟨.inr, fun hs => hs.resolve_left h⟩

/-- What is remembered held what is below it before. -/
theorem Closed.keep (h : s.Closed rules tokens F) (hmem : cfg.memoize = true)
    (hF : Family rules F) (hm : F m) {o : Outcome} (ho : Yields rules tokens m q o.answer)
    (hin : ∀ d m' q', VisitsInside rules tokens m q d m' q' → s.Holds m' q') :
    (Attempt.keep cfg m q o s).Closed rules tokens F where
  toTruthful := h.toTruthful.keep (fun _ => hF) (fun _ => hm) ho
  closed := fun {m₁ q₁ d m' q'} hm₁ hq hv => by
    rw [holds_keep hmem] at hq ⊢
    rcases hq with ⟨hid, rfl⟩ | hq
    · obtain rfl := hF.unique hm hm₁ hid
      rcases hv.eq_or_inside with ⟨-, rfl, rfl⟩ | hv
      · exact .inl ⟨rfl, rfl⟩
      · exact .inr (hin _ _ _ hv)
    · exact .inr (h.closed hm₁ hq hv)

end State

/-! ### What is stored -/

namespace Stores

theorem of_alike (hs : s.Closed rules tokens F) (ha : s.Alike s') :
    Stores rules tokens F (fun _ _ => False) s c s' where
  closed := ha.closed hs
  keeps := ha.holds_iff.mpr
  origin := fun _ h => .inl (ha.holds_iff.mp h)
  covers := fun _ => False.elim

theorem mono (h : Stores rules tokens F V s c s') (hV : ∀ {m q}, V m q → V' m q)
    (hV' : c = none → ∀ {m q}, V' m q → V m q) : Stores rules tokens F V' s c s' where
  closed := h.closed
  keeps := h.keeps
  origin := fun hm hq => (h.origin hm hq).imp_right hV
  covers := fun hc _ _ hv => h.covers hc (hV' hc hv)

theorem trans (h : Stores rules tokens F V s none s₁) (h' : Stores rules tokens F V' s₁ c s') :
    Stores rules tokens F (fun m q => V m q ∨ V' m q) s c s' where
  closed := h'.closed
  keeps := fun hq => h'.keeps (h.keeps hq)
  origin := fun hm hq => by
    rcases h'.origin hm hq with hq | hv
    · exact (h.origin hm hq).imp_right .inl
    · exact .inr (.inr hv)
  covers := fun hc _ _ hv => hv.elim (fun hv => h'.keeps (h.covers rfl hv)) (h'.covers hc)

theorem after_alike (ha : s.Alike s₁) (h : Stores rules tokens F V s₁ c s') :
    Stores rules tokens F V s c s' where
  closed := h.closed
  keeps := fun hq => h.keeps (ha.holds_iff.mpr hq)
  origin := fun hm hq => (h.origin hm hq).imp_left ha.holds_iff.mp
  covers := h.covers

theorem then_alike (h : Stores rules tokens F V s c s₁) (ha : s₁.Alike s') :
    Stores rules tokens F V s c s' where
  closed := ha.closed h.closed
  keeps := fun hq => ha.holds_iff.mpr (h.keeps hq)
  origin := fun hm hq => h.origin hm (ha.holds_iff.mp hq)
  covers := fun hc _ _ hv => ha.holds_iff.mpr (h.covers hc hv)

theorem recordFailure (h : Stores rules tokens F V s c s') (p : Nat) :
    Stores rules tokens F V s c (s'.recordFailure p) :=
  ⟨h.closed.recordFailure p, h.keeps, h.origin, h.covers⟩

/-- After what is below a matcher, the matcher itself. -/
theorem keep {p : Nat} {o : Outcome}
    (h : Stores rules tokens F (fun m' q => ∃ d, VisitsInside rules tokens m p d m' q) s none s')
    (hmem : cfg.memoize = true) (hF : Family rules F) (hm : F m)
    (ho : Yields rules tokens m p o.answer) :
    Stores rules tokens F (fun m' q => ∃ d, Visits rules tokens m p d m' q) s none
      (Attempt.keep cfg m p o s') where
  closed := h.closed.keep hmem hF hm ho fun d _ _ hv => h.covers rfl ⟨d, hv⟩
  keeps := fun hq => (State.holds_keep hmem).mpr (.inr (h.keeps hq))
  origin := fun hm' hq => by
    rcases (State.holds_keep hmem).mp hq with ⟨hid, rfl⟩ | hq
    · obtain rfl := hF.unique hm hm' hid
      exact .inr ⟨0, .here⟩
    · exact (h.origin hm' hq).imp_right fun ⟨d, hv⟩ => ⟨d, hv.visits⟩
  covers := fun _ _ _ ⟨d, hv⟩ => by
    rw [State.holds_keep hmem]
    rcases hv.eq_or_inside with ⟨-, rfl, rfl⟩ | hv
    · exact .inl ⟨rfl, rfl⟩
    · exact .inr (h.covers rfl ⟨d, hv⟩)

end Stores

/-- The attempts on a trail store what each of them visits. -/
theorem Trail.stores (h : Trail how s l c s') (hs : s.Closed rules tokens F)
    (hl : ∀ x ∈ l, ∀ {s : State}, s.cursor = x.2 → s.Closed rules tokens F →
      Stores rules tokens F (fun m q => ∃ d, Visits rules tokens x.1 x.2 d m q) s
        (cause? (how x.1 s)) (how x.1 s).2) :
    Stores rules tokens F (fun m q => ∃ x ∈ l, ∃ d, Visits rules tokens x.1 x.2 d m q) s c s' := by
  induction h with
  | done ha =>
      exact (Stores.of_alike hs ha.toAlike).mono False.elim fun _ _ _ ⟨_, hx, _⟩ => nomatch hx
  | @step m s s' l c hn _ ih =>
      obtain ⟨hm, hl⟩ := List.forall_mem_cons.mp hl
      have hm := hm rfl hs
      rw [hn] at hm
      refine (hm.trans (ih hm.closed hl)).mono ?_ fun _ {m' q} => ?_
      · rintro m' q (hv | ⟨x, hx, hv⟩)
        · exact ⟨_, List.mem_cons_self, hv⟩
        · exact ⟨x, List.mem_cons_of_mem _ hx, hv⟩
      · rintro ⟨x, hx, hv⟩
        rcases List.mem_cons.mp hx with rfl | hx
        · exact .inl hv
        · exact .inr ⟨x, hx, hv⟩
  | @stopped m s s' c hn ha =>
      have hm := (List.forall_mem_cons.mp hl).1 rfl hs
      rw [hn] at hm
      exact (hm.then_alike ha.toAlike).mono (fun hv => ⟨_, List.mem_singleton_self _, hv⟩) nofun

/-- Trying the parts of a matcher stores what is below it. -/
theorem Treads.stores (h : Treads rules tokens how m s e l) (hs : s.Closed rules tokens F)
    (hr : m.isRule = false)
    (hparts : ∀ m' ∈ m.parts, ∀ {s : State}, s.Closed rules tokens F →
      Stores rules tokens F (fun m₁ q => ∃ d, Visits rules tokens m' s.cursor d m₁ q) s
        (cause? (how m' s)) (how m' s).2) :
    Stores rules tokens F (fun m₁ q => ∃ d, VisitsInside rules tokens m s.cursor d m₁ q) s
      (cause? e) e.2 := by
  have hl := h.trail.stores hs fun x hx {s} hp hs => hp ▸ hparts x.1 (h.tries x hx).mem_parts hs
  refine hl.mono ?_ fun hc {m' q} => ?_
  · rintro m' q ⟨x, hx, d, hv⟩
    exact ⟨d, .part (h.tries x hx) hv⟩
  · rintro ⟨d, hv⟩
    cases hv with
    | part ht hv => exact ⟨_, h.mem_of_tries hc ht, d, hv⟩
    | body => cases hr

/-- Winding up an attempt adds the matcher itself. -/
theorem stores_concluded (hmem : cfg.memoize = true) (hF : Family rules F) (hm : F m)
    (hi : Stores rules tokens F (fun m₁ q => ∃ d, VisitsInside rules tokens m s.cursor d m₁ q)
      (announce m .entered s) (cause? e) e.2)
    (ht : Told rules tokens F m s (concluded cfg m s.cursor e)) :
    Stores rules tokens F (fun m₁ q => ∃ d, Visits rules tokens m s.cursor d m₁ q) s
      (cause? (concluded cfg m s.cursor e)) (concluded cfg m s.cursor e).2 := by
  have hi := hi.after_alike (.announce s m .entered)
  rcases e with ⟨(p | a) | r, s'⟩
  · have hy : Yields rules tokens m s.cursor (.failed p) := by
      cases ht with
      | backtrack _ yields _ => exact yields
    have hi := (hi.then_alike (.moveTo s' s.cursor)).recordFailure p
    exact (hi.then_alike (.announce _ m (.failed p))).keep hmem hF hm hy
  · exact (hi.then_alike (.moveTo s' s.cursor)).mono (fun ⟨d, hv⟩ => ⟨d, hv.visits⟩) nofun
  · have hy : Yields rules tokens m s.cursor r.answer := by
      cases ht with
      | ok _ yields _ => exact yields
    exact (hi.then_alike (.announce s' m (.matched r.node))).keep hmem hF hm hy

/-- An attempt stores what it visits if trying what is inside stores what is below. -/
theorem stores_attempt_of_inside {enter : String → Attempt Match} (hmem : cfg.memoize = true)
    (hF : Family rules F) (hm : F m) (hs : s.Closed rules tokens F)
    (ht : Told rules tokens F m s (attempt cfg enter m s))
    (hi : ∀ {s : State}, s.Closed rules tokens F →
      Stores rules tokens F (fun m₁ q => ∃ d, VisitsInside rules tokens m s.cursor d m₁ q) s
        (cause? (attemptShape cfg enter m.shape s)) (attemptShape cfg enter m.shape s).2) :
    Stores rules tokens F (fun m₁ q => ∃ d, Visits rules tokens m s.cursor d m₁ q) s
      (cause? (attempt cfg enter m s)) (attempt cfg enter m s).2 := by
  rcases attempt_cases cfg enter m s with ⟨o, ho, -, ha⟩ | ⟨-, he⟩
  · -- with the matcher, all that it visits was held before
    have hq := State.holds_of_remembered? ho
    have ha := ha.toAlike
    exact ⟨ha.closed hs, ha.holds_iff.mpr, fun _ h => .inl (ha.holds_iff.mp h),
      fun _ _ _ ⟨_, hv⟩ => ha.holds_iff.mpr (hs.closed hm hq hv)⟩
  · rw [he] at ht ⊢
    have hi := hi ((State.Alike.announce s m .entered).closed hs)
    rw [cursor_announce] at hi
    exact stores_concluded hmem hF hm hi ht

/-- Trying what is inside stores what is below. -/
theorem stores_attemptShape (hmem : cfg.memoize = true) (hF : Family rules F) :
    ∀ (depth : Nat) (m : Matcher), F m → ∀ {s : State}, s.Closed rules tokens F →
      Stores rules tokens F (fun m₁ q => ∃ d, VisitsInside rules tokens m s.cursor d m₁ q) s
        (cause? (attemptShape cfg (enterRule cfg rules depth) m.shape s))
        (attemptShape cfg (enterRule cfg rules depth) m.shape s).2 := by
  have hF' : cfg.memoize = true → Family rules F := fun _ => hF
  refine induction_entering rules ?parts ?stuck ?body
  case parts =>
    intro depth m hr ih hm s hs
    obtain ⟨l, hl⟩ := treads_attemptShape hr (tells_parts hF' depth fun _ => hm) hs.toTruthful
    refine hl.stores hs hr fun m' hp s hs => ?_
    have hm' := hF.part hm hp
    have ht := tells_attempt hF' depth (fun _ => hm') hs.toTruthful
    exact stores_attempt_of_inside hmem hF hm' hs ht (ih m' hp hm')
  case stuck =>
    intro depth i name hstuck _ s hs
    show Stores _ _ _ _ s (cause? (enterRule cfg rules depth name s))
      (enterRule cfg rules depth name s).2
    obtain ⟨c, he⟩ := enterRule_stuck cfg hstuck s
    rw [he]
    exact (Stores.of_alike hs (.refl s)).mono False.elim nofun
  case body =>
    intro depth i name body hb ih _ s hs
    show Stores _ _ _ _ s (cause? (enterRule cfg rules (depth + 1) name s))
      (enterRule cfg rules (depth + 1) name s).2
    obtain ⟨hc, ha⟩ := enterRule_of_lookup cfg depth s hb
    have hreport := State.Alike.report s (.rule name) .entered
    have hbody := hF.body hb
    have ht := tells_attempt hF' depth (fun _ => hbody) (hreport.closed hs).toTruthful
    have hst := stores_attempt_of_inside hmem hF hbody (hreport.closed hs) ht (ih hbody)
    rw [hc]
    refine ((hst.then_alike ha).after_alike hreport).mono
      (fun ⟨d, hv⟩ => ⟨d + 1, .body hb hv⟩) fun _ {m' q} => ?_
    rintro ⟨d, hv⟩
    cases hv with
    | part ht => exact absurd ht not_tries_rule
    | body hb' hv =>
        cases hb.symm.trans hb'
        exact ⟨_, hv⟩

/-- **Attempts store what they visit.** -/
theorem stores_attempt (hmem : cfg.memoize = true) (hF : Family rules F) (depth : Nat)
    (hm : F m) (hs : s.Closed rules tokens F) :
    Stores rules tokens F (fun m₁ q => ∃ d, Visits rules tokens m s.cursor d m₁ q) s
      (cause? (attempt cfg (enterRule cfg rules depth) m s))
      (attempt cfg (enterRule cfg rules depth) m s).2 :=
  stores_attempt_of_inside hmem hF hm hs
    (tells_attempt (fun _ => hF) depth (fun _ => hm) hs.toTruthful)
    (stores_attemptShape hmem hF depth m hm)

/-! ### Two attempts -/

theorem Trail.of_cons {x : Matcher × Nat} (h : Trail how s (x :: l) none s') :
    s.cursor = x.2 ∧ cause? (how x.1 s) = none ∧ Trail how (how x.1 s).2 l none s' := by
  cases h with
  | step hn h => exact ⟨rfl, hn, h⟩

/-- Of two trails, the first was not aborted and the second goes no further.  If no attempt on the
second is aborted where `R` relates the states, then the second was not aborted either. -/
theorem Trail.cause_eq_none {R : State → State → Prop} {s₂ s₂' : State}
    (h : Trail how s l none s₁) (h' : Trail how' s₂ l' c s₂') (hl : l' <+: l) (hR : R s₂ s)
    (hstep : ∀ x ∈ l, ∀ {s s₂ : State}, s.cursor = x.2 → s₂.cursor = x.2 → R s₂ s →
      cause? (how x.1 s) = none →
        cause? (how' x.1 s₂) = none ∧ R (how' x.1 s₂).2 (how x.1 s).2) : c = none := by
  induction h' generalizing s l with
  | done => rfl
  | step _ _ ih =>
      obtain ⟨l, rfl, hl⟩ := List.cons_prefix_iff.mp hl
      obtain ⟨hx, hstep⟩ := List.forall_mem_cons.mp hstep
      obtain ⟨hp, hc, h⟩ := h.of_cons
      exact ih h ((List.prefix_cons_inj _).mp hl) (hx hp rfl hR hc).2 hstep
  | stopped hn _ =>
      obtain ⟨l, rfl, -⟩ := List.cons_prefix_iff.mp hl
      obtain ⟨hp, hc, -⟩ := h.of_cons
      rw [(hstep _ List.mem_cons_self hp rfl hR hc).1] at hn
      cases hn

namespace State.Ahead

variable {s₂ s₂' : State}

theorem of_alike (h : s₂.Ahead rules tokens F s) (ha : s.Alike s') (ha₂ : s₂.Alike s₂') :
    s₂'.Ahead rules tokens F s' where
  closed := ha₂.closed h.closed
  behind := ha.closed h.behind
  holds := fun hm hq => ha₂.holds_iff.mpr (h.holds hm (ha.holds_iff.mp hq))

/-- A state that is ahead stays ahead if both store the same. -/
theorem of_stores (h : s₂.Ahead rules tokens F s) (hs : Stores rules tokens F V s c s')
    (hs₂ : Stores rules tokens F V s₂ none s₂') : s₂'.Ahead rules tokens F s' where
  closed := hs₂.closed
  behind := hs.closed
  holds := fun hm hq =>
    (hs.origin hm hq).elim (fun hq => hs₂.keeps (h.holds hm hq)) (hs₂.covers rfl)

/-- What is not remembered where it is looked for by the state that is ahead is not remembered by
the other. -/
theorem remembered?_eq_none (h : s₂.Ahead rules tokens F s) (hm : F m)
    (hp : s.cursor = s₂.cursor) (hmem : cfg'.memoize = true)
    (hs : remembered? cfg' m s₂ = none) : remembered? cfg m s = none := by
  cases ho : remembered? cfg m s with
  | none => rfl
  | some o =>
      have hq := h.holds hm (holds_of_remembered? ho)
      rw [hp] at hq
      simp only [remembered?, hmem, if_true] at hs
      exact absurd hs hq

end State.Ahead

/-- **No abort for who is ahead.**  By induction over the rules that may still be entered and over
the parts, where both runs try the same parts at the same positions. -/
theorem cause?_attempt_of_ahead (hmem : cfg.memoize = true) (hmem' : cfg'.memoize = true)
    (hF : Family rules F) : ∀ (depth : Nat) (m : Matcher), F m → ∀ {depth' : Nat} {s s₂ : State},
      depth ≤ depth' → s₂.Ahead rules tokens F s → s.cursor = s₂.cursor →
      cause? (attempt cfg (enterRule cfg rules depth) m s) = none →
      cause? (attempt cfg' (enterRule cfg' rules depth') m s₂) = none := by
  have hF₁ : cfg.memoize = true → Family rules F := fun _ => hF
  have hF₂ : cfg'.memoize = true → Family rules F := fun _ => hF
  refine induction_entering rules ?parts ?stuck ?body
  case parts =>
    intro depth m hr ih hm depth' s s₂ hd h hp hc
    rcases attempt_cases cfg' (enterRule cfg' rules depth') m s₂ with
      ⟨_, -, hn, -⟩ | ⟨hn, he⟩
    · exact hn
    rw [attempt_of_remembered?_eq_none (h.remembered?_eq_none hm hp hmem' hn),
      cause?_concluded] at hc
    rw [he, cause?_concluded]
    -- both try what is inside
    have h := h.of_alike (.announce s m .entered) (.announce s₂ m .entered)
    obtain ⟨l, hl⟩ := treads_attemptShape hr (tells_parts hF₁ depth fun _ => hm)
      h.behind.toTruthful
    obtain ⟨l', hl'⟩ := treads_attemptShape hr (tells_parts hF₂ depth' fun _ => hm)
      h.closed.toTruthful
    have hcourse : Course rules tokens m (announce m .entered s).cursor l' := by
      simpa only [cursor_announce, hp] using hl'.course
    have htrail := hl.trail
    rw [hc] at htrail
    refine htrail.cause_eq_none hl'.trail (hl.all hc _ hcourse) h ?_
    rintro ⟨m₁, p₁⟩ hx s s₂ hp₁ hp₂ h hc
    have hpart := (hl.tries _ hx).mem_parts
    have hm₁ := hF.part hm hpart
    have hc₂ := ih m₁ hpart hm₁ hd h (hp₁.trans hp₂.symm) hc
    have hst := stores_attempt hmem hF depth hm₁ h.behind
    have hst₂ := stores_attempt hmem' hF depth' hm₁ h.closed
    rw [hc, hp₁] at hst
    rw [hc₂, hp₂] at hst₂
    exact ⟨hc₂, h.of_stores hst hst₂⟩
  case stuck =>
    intro depth i name hstuck hm depth' s s₂ _ h hp hc
    rcases attempt_cases cfg' (enterRule cfg' rules depth') ⟨i, .rule name⟩ s₂ with
      ⟨_, -, hn, -⟩ | ⟨hn, -⟩
    · exact hn
    obtain ⟨a, ha⟩ := exists_cause?_of_stuck hstuck (h.remembered?_eq_none hm hp hmem' hn)
    rw [hc] at ha
    cases ha
  case body =>
    intro depth i name body hb ih hm depth' s s₂ hd h hp hc
    obtain ⟨depth', rfl⟩ := Nat.exists_eq_add_of_lt hd
    rcases attempt_cases cfg' (enterRule cfg' rules (depth + depth' + 1)) ⟨i, .rule name⟩ s₂ with
      ⟨_, -, hn, -⟩ | ⟨hn, -⟩
    · exact hn
    obtain ⟨s₀, hp₀, ha, he⟩ :=
      cause?_attempt_rule depth hb (h.remembered?_eq_none hm hp hmem' hn)
    obtain ⟨s₀', hp₀', ha', he'⟩ := cause?_attempt_rule (depth + depth') hb hn
    rw [he] at hc
    rw [he']
    exact ih (hF.body hb) (Nat.le_add_right _ _) (h.of_alike ha ha') (by rw [hp₀, hp, hp₀']) hc

end Packrat
