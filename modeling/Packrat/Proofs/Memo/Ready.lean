import Packrat.Proofs.Grammar.Matchers
import Packrat.Proofs.Memo.Closed
import Packrat.Proofs.Peg.Lanes
import Packrat.Proofs.Peg.Verdict

/-!
# Proofs — Memo — Ready

Attempts that the memo has no answers for.  A state is *ready* at a position if it is there, and no
reference to a rule is remembered from there on.  A parse starts in such a state.

**Ready again** (`State.Ready.after`): after a match for which rules were visited only before its
end, the state is ready at its end.

What is visited for the match can be seen from the matcher: without references inside of it there
are no rules (`isRule_of_visits`), and of a choice only the alternatives up to the one that matches
count (`isRule_of_visits_firstOf`).
-/

namespace Packrat

open Attempt

variable {rules : List (String × Matcher)} {tokens : List Token} {F : Matcher → Prop}
  {cfg : Config} {how : Matcher → Attempt Match} {m m' m₁ : Matcher}
  {tr : List (Trivia Token)} {n : Node} {s t : State} {c : Option Abort}
  {l : List (Matcher × Nat)} {i p q e d depth : Nat}

/-! ### Rules that are visited -/

/-- Without references to rules inside, no rule is visited. -/
theorem isRule_of_visits (h : ∀ m₁ ∈ m.inside, m₁.isRule = false)
    (hv : Visits rules tokens m p d m' e) : m'.isRule = false := by
  induction hv with
  | @here m _ => exact h m (Matcher.mem_inside_self m)
  | part ht _ ih =>
      exact ih fun m₂ hm₂ => h m₂ (Matcher.mem_inside_iff.mpr (.inr ⟨_, ht.mem_parts, hm₂⟩))
  | @body i _ name _ _ _ _ _ _ _ =>
      have hr := h ⟨i, .rule name⟩ (Matcher.mem_inside_self _)
      cases hr

/-- Only the alternatives up to the one that matches are visited. -/
theorem isRule_of_visits_firstOf (ms : List Matcher) {ms' : List Matcher}
    (hy : Yields rules tokens m₁ p (.matched n tr e))
    (hms : ∀ m₂ ∈ ms ++ [m₁], ∀ m₃ ∈ m₂.inside, m₃.isRule = false)
    (hv : Visits rules tokens ⟨i, .firstOf (ms ++ m₁ :: ms')⟩ p d m' q) : m'.isRule = false := by
  cases hv with
  | here => rfl
  | part ht hv =>
      induction ms with
      | nil =>
          cases ht with
          | first hf =>
              cases hf
              exact isRule_of_visits (hms m₁ List.mem_cons_self) hv
          | onward hg =>
              cases hg with
              | firstOf hy' => cases hy.unique hy'
      | cons m₂ ms ih =>
          obtain ⟨hm₂, hms⟩ := List.forall_mem_cons.mp hms
          cases ht with
          | first hf =>
              cases hf
              exact isRule_of_visits hm₂ hv
          | onward hg ht =>
              cases hg with
              | firstOf => exact ih hms ht

/-! ### States -/

variable (rules tokens F cfg) in
/-- The state is at the position, and no reference to a rule is remembered from there on. -/
structure State.Ready (s : State) (q : Nat) : Prop where
  cursor_eq : s.cursor = q
  counted : s.Counted rules tokens F
  closed : cfg.memoize = true → s.Closed rules tokens F
  not_holds : cfg.memoize = true → ∀ {m p}, F m → m.isRule = true → q ≤ p → ¬ s.Holds m p

theorem State.ready_start (listening : Bool) :
    (State.start tokens listening).Ready rules tokens F cfg 0 where
  cursor_eq := rfl
  counted := State.counted_start rules tokens F listening
  closed := fun _ => State.closed_start listening
  not_holds := fun _ {_ _} _ _ _ => State.not_holds_start listening

theorem State.Ready.of_alike (h : s.Ready rules tokens F cfg q) (ha : s.Alike t)
    (hc : t.cursor = s.cursor) : t.Ready rules tokens F cfg q where
  cursor_eq := hc.trans h.cursor_eq
  counted := ha.counted h.counted
  closed := fun hmem => ha.closed (h.closed hmem)
  not_holds := fun hmem {_ _} hm hr hp hq => h.not_holds hmem hm hr hp (ha.holds_iff.mp hq)

/-- After a match, the cursor is where it ends. -/
theorem State.Ready.cursor_attempt (h : s.Ready rules tokens F cfg q) (hF : Family rules F)
    (hm : F m) (hc : cause? (attempt cfg (enterRule cfg rules depth) m s) = none)
    (hy : Yields rules tokens m q (.matched n tr e)) :
    (attempt cfg (enterRule cfg rules depth) m s).2.cursor = e := by
  rw [← h.cursor_eq] at hy
  have hF' : cfg.memoize = true → Family rules F := fun _ => hF
  have ht := tells_attempt hF' depth (fun _ => hm) h.counted.toTruthful
  generalize attempt cfg (enterRule cfg rules depth) m s = x at hc ht
  cases ht with
  | ok _ hy' hstop =>
      cases hy.unique hy'
      exact hstop
  | backtrack _ hy' => cases hy.unique hy'
  | abort => cases hc

/-- After a match that has not come to any rule from its end on, nothing is remembered from there
on. -/
theorem State.Ready.after (h : s.Ready rules tokens F cfg q) (hF : Family rules F) (hm : F m)
    (hc : cause? (attempt cfg (enterRule cfg rules depth) m s) = none)
    (hy : Yields rules tokens m q (.matched n tr e))
    (hv : ∀ {d m' p}, Visits rules tokens m q d m' p → m'.isRule = true → p < e) :
    (attempt cfg (enterRule cfg rules depth) m s).2.Ready rules tokens F cfg e := by
  have hcursor := h.cursor_attempt hF hm hc hy
  obtain ⟨rfl, hcounted, hclosed, hfresh⟩ := h
  have hst := fun hmem => stores_attempt hmem hF depth hm (hclosed hmem)
  refine ⟨hcursor,
    (counts_attempt (fun _ => hF) depth m (fun _ => hm) hcounted).counted,
    fun hmem => (hst hmem).closed, fun hmem {m' p} hm' hr hp hq => ?_⟩
  rcases (hst hmem).origin hm' hq with hq | ⟨d, hv'⟩
  · exact hfresh hmem hm' hr (Nat.le_trans hy.le_stop hp) hq
  · exact absurd (hv hv' hr) (Nat.not_lt_of_le hp)

/-- The state is at the first token, and nothing was tried so far. -/
structure State.Begun (tokens : List Token) (s : State) : Prop where
  alike : ∃ listening, (State.start tokens listening).Alike s
  cursor_eq : s.cursor = 0

namespace State.Begun

theorem start (listening : Bool) : (State.start tokens listening).Begun tokens :=
  ⟨⟨listening, .refl _⟩, rfl⟩

theorem of_alike (h : s.Begun tokens) (ha : s.Alike t) (hc : t.cursor = s.cursor) :
    t.Begun tokens where
  alike := h.alike.imp fun _ h => h.trans ha
  cursor_eq := hc.trans h.cursor_eq

theorem announce (h : s.Begun tokens) (m : Matcher) (phase : Phase) :
    (Attempt.announce m phase s).Begun tokens :=
  h.of_alike (.announce s m phase) (by simp)

theorem truthful (h : s.Begun tokens) : s.Truthful rules tokens F := by
  obtain ⟨listening, ha⟩ := h.alike
  exact ha.truthful (State.counted_start rules tokens F listening).toTruthful

theorem ready (h : s.Begun tokens) : s.Ready rules tokens F cfg 0 := by
  obtain ⟨⟨listening, ha⟩, hc⟩ := h
  exact (State.ready_start listening).of_alike ha hc

/-- Nothing is remembered at first. -/
theorem remembered?_eq_none (h : s.Begun tokens) (cfg : Config) (m : Matcher) :
    remembered? cfg m s = none := by
  obtain ⟨listening, ha⟩ := h.alike
  simp only [remembered?, ha.outcomes_eq, State.outcomeAt?_start, ite_self]

end State.Begun

/-! ### Parts -/

/-- What is not remembered is tried, part by part. -/
theorem exists_treads (hF : Family rules F) (hm : F m) (hr : m.isRule = false)
    (hs : s.Truthful rules tokens F) (hn : remembered? cfg m s = none) (depth : Nat) :
    ∃ (l : List (Matcher × Nat)) (t : State),
      Trail (attempt cfg (enterRule cfg rules depth)) (announce m .entered s) l
        (cause? (attempt cfg (enterRule cfg rules depth) m s)) t ∧
      Course rules tokens m s.cursor l ∧
      (cause? (attempt cfg (enterRule cfg rules depth) m s) = none →
        ∀ l', Course rules tokens m s.cursor l' → l' <+: l) := by
  have hF' : cfg.memoize = true → Family rules F := fun _ => hF
  obtain ⟨l, hl⟩ := treads_attemptShape hr (tells_parts hF' depth fun _ => hm)
    (hs.announce m .entered)
  rw [attempt_of_remembered?_eq_none hn, cause?_concluded]
  have hcourse := hl.course
  have hall := hl.all
  rw [cursor_announce] at hcourse hall
  exact ⟨l, _, hl.trail, hcourse, hall⟩

/-- Without parts, nothing is aborted. -/
theorem cause?_of_parts_eq_nil (hF : Family rules F) (hm : F m) (hparts : m.parts = [])
    (hr : m.isRule = false) (hs : s.Truthful rules tokens F) :
    cause? (attempt cfg (enterRule cfg rules depth) m s) = none := by
  have hF' : cfg.memoize = true → Family rules F := fun _ => hF
  cases hc : cause? (attempt cfg (enterRule cfg rules depth) m s) with
  | none => rfl
  | some c =>
      obtain ⟨m₁, _, ht, -⟩ :=
        exists_tries_aborted hr (tells_parts hF' depth fun _ => hm) hs hc
      exact absurd ht.mem_parts (by simp [hparts])

/-- Neither is a row of attempts of matchers without parts. -/
theorem Trail.cause_eq_none_of_leaves (hF : Family rules F)
    (ht : Trail (attempt cfg (enterRule cfg rules depth)) s l c t)
    (hl : ∀ x ∈ l, F x.1 ∧ x.1.parts = [] ∧ x.1.isRule = false) (hs : s.Truthful rules tokens F) :
    c = none := by
  have hF' : cfg.memoize = true → Family rules F := fun _ => hF
  cases c with
  | none => rfl
  | some c =>
      obtain ⟨x, hx, s₀, -, hs₀, hc⟩ := ht.exists_stopped hs fun x hx _ _ hs =>
        (tells_attempt hF' depth (fun _ => (hl x hx).1) hs).truthful_end
      obtain ⟨hm, hparts, hr⟩ := hl x hx
      cases hc.symm.trans (cause?_of_parts_eq_nil hF hm hparts hr hs₀)

/-- All that is tried begins with what is tried first. -/
theorem exists_first (hf : TriesFirst tokens m p m₁)
    (h : ∀ l₁, Course rules tokens m p l₁ → l₁ <+: l) : ∃ l₂, l = (m₁, p) :: l₂ := by
  obtain ⟨l₂, rfl, -⟩ := List.cons_prefix_iff.mp (h _ (.first hf))
  exact ⟨l₂, rfl⟩

/-- Unless it is aborted, what is left is tried next. -/
theorem exists_after_first (hf : TriesFirst tokens m p m₁) (ht : Trail how s l c t)
    (hc : Course rules tokens m p l) (hn : cause? (how m₁ s) = none) :
    c = none ∨ ∃ l₂, l = (m₁, p) :: l₂ ∧ Trail how (how m₁ s).2 l₂ c t := by
  cases ht with
  | done => exact .inl rfl
  | step _ hrest =>
      obtain ⟨hp, hf'⟩ := hc.of_cons
      obtain rfl := hf.unique hf'
      exact .inr ⟨_, by rw [← hp], hrest⟩
  | stopped hn' =>
      obtain ⟨-, hf'⟩ := hc.of_cons
      obtain rfl := hf.unique hf'
      rw [hn] at hn'
      cases hn'

end Packrat
