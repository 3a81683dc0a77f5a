import Packrat.Proofs.Peg.Trail

/-!
# Proofs — Peg — Furthest

Which failures a state has noted.  The memo spares attempts, and with them their failures, but
these were noted when the outcome was put there: in a `Counted` state, what is remembered comes
with all its failures.

**The furthest failure** (`counts_attempt`): an attempt leaves a counted state, in which `deepest`
is what it was before, or a failure noted on the way.  If the attempt was not aborted, no failure
on the way is further.  So two attempts of one matcher at one position, neither of them aborted,
come to the same furthest failure, with and without a memo (`Counts.deepest_eq`).
-/

namespace Packrat

open Attempt

variable {rules : List (String × Matcher)} {tokens : List Token} {F : Matcher → Prop}
  {cfg : Config} {how : Matcher → Attempt Match} {m : Matcher} {c : Option Abort}
  {s s' : State} {l : List (Matcher × Nat)} {e e' : Ending Match}

section

variable (rules tokens F)

/-- Truthful, and no failure on the way to an outcome in the memo is further than the furthest. -/
structure State.Counted (s : State) : Prop extends s.Truthful rules tokens F where
  counted : ∀ {m q o k}, F m → s.outcomeAt? m.id q = some o → Noted rules tokens m q k →
    k ≤ s.deepest

/-- What trying what is inside of `m` does to the furthest failure. -/
structure CountsInside (m : Matcher) (s : State) (e : Ending Match) : Prop where
  counted : e.2.Counted rules tokens F
  grows : s.deepest ≤ e.2.deepest
  origin : e.2.deepest = s.deepest ∨ NotedInside rules tokens m s.cursor e.2.deepest
  covers : cause? e = none → ∀ k, NotedInside rules tokens m s.cursor k → k ≤ e.2.deepest

/-- What trying `m` does to the furthest failure. -/
structure Counts (m : Matcher) (s : State) (e : Ending Match) : Prop where
  counted : e.2.Counted rules tokens F
  grows : s.deepest ≤ e.2.deepest
  origin : e.2.deepest = s.deepest ∨ Noted rules tokens m s.cursor e.2.deepest
  covers : cause? e = none → ∀ k, Noted rules tokens m s.cursor k → k ≤ e.2.deepest

end

namespace State

theorem Counted.of_grown (h : s.Counted rules tokens F) (ht : s'.tokens = s.tokens)
    (ho : ∀ id q, s'.outcomeAt? id q = s.outcomeAt? id q) (hd : s.deepest ≤ s'.deepest) :
    s'.Counted rules tokens F where
  toTruthful := h.toTruthful.of_same ht ho
  counted := fun hm e hk => Nat.le_trans (h.counted hm (ho _ _ ▸ e) hk) hd

theorem Alike.counted (ha : s.Alike s') (h : s.Counted rules tokens F) :
    s'.Counted rules tokens F :=
  h.of_grown ha.tokens_eq ha.outcomes_eq (Nat.le_of_eq ha.deepest_eq.symm)

theorem Counted.recordFailure (h : s.Counted rules tokens F) (p : Nat) :
    (s.recordFailure p).Counted rules tokens F :=
  h.of_grown rfl (fun _ _ => rfl) (Nat.le_max_left _ _)

theorem Counted.keep (h : s.Counted rules tokens F) (hF : cfg.memoize = true → Family rules F)
    (hm : cfg.memoize = true → F m) {q : Nat} {o : Outcome} (ho : Yields rules tokens m q o.answer)
    (hk : ∀ k, Noted rules tokens m q k → k ≤ s.deepest) :
    (Attempt.keep cfg m q o s).Counted rules tokens F where
  toTruthful := h.toTruthful.keep hF hm ho
  counted := fun {m' q' o' k} hm' e hn => by
    rw [deepest_keep]
    rw [outcomeAt?_keep] at e
    split at e
    · next hc =>
      obtain ⟨hc, hid, rfl⟩ := hc
      obtain rfl := (hF hc).unique (hm hc) hm' hid
      exact hk k hn
    · exact h.counted hm' e hn

end State

/-- What the attempts on a trail do to the furthest failure, the whole trail does. -/
theorem Trail.counts (h : Trail how s l c s') (hs : s.Counted rules tokens F)
    (hl : ∀ x ∈ l, ∀ {s : State}, s.cursor = x.2 → s.Counted rules tokens F →
      Counts rules tokens F x.1 s (how x.1 s)) :
    s'.Counted rules tokens F ∧ s.deepest ≤ s'.deepest ∧
      (s'.deepest = s.deepest ∨ ∃ x ∈ l, Noted rules tokens x.1 x.2 s'.deepest) ∧
      (c = none → ∀ x ∈ l, ∀ k, Noted rules tokens x.1 x.2 k → k ≤ s'.deepest) := by
  induction h with
  | done ha =>
      exact ⟨ha.counted hs, Nat.le_of_eq ha.deepest_eq.symm, .inl ha.deepest_eq,
        fun _ _ hx => nomatch hx⟩
  | @step m s s' l c hn _ ih =>
      obtain ⟨hm, hl⟩ := List.forall_mem_cons.mp hl
      have hm := hm rfl hs
      obtain ⟨hcounted, hgrows, horigin, hcovers⟩ := ih hm.counted hl
      refine ⟨hcounted, Nat.le_trans hm.grows hgrows, ?_, fun hc => ?_⟩
      · rcases horigin with hd | ⟨x, hx, hk⟩
        · rw [hd]
          exact hm.origin.imp_right fun hk => ⟨_, List.mem_cons_self, hk⟩
        · exact .inr ⟨x, List.mem_cons_of_mem _ hx, hk⟩
      · exact List.forall_mem_cons.mpr
          ⟨fun k hk => Nat.le_trans (hm.covers hn k hk) hgrows, hcovers hc⟩
  | @stopped m s s' c hn ha =>
      have hm := (List.forall_mem_cons.mp hl).1 rfl hs
      refine ⟨ha.counted hm.counted, ha.deepest_eq ▸ hm.grows, ?_, nofun⟩
      rw [ha.deepest_eq]
      exact hm.origin.imp_right fun hk => ⟨_, List.mem_cons_self, hk⟩

/-- Trying the parts of a matcher, one after the other. -/
theorem Treads.countsInside (h : Treads rules tokens how m s e l) (hs : s.Counted rules tokens F)
    (hr : m.isRule = false)
    (hparts : ∀ m' ∈ m.parts, ∀ {s : State}, s.Counted rules tokens F →
      Counts rules tokens F m' s (how m' s)) : CountsInside rules tokens F m s e := by
  obtain ⟨hcounted, hgrows, horigin, hcovers⟩ :=
    h.trail.counts hs fun x hx _ _ hs => hparts x.1 (h.tries x hx).mem_parts hs
  refine ⟨hcounted, hgrows, ?_, fun hc k hk => ?_⟩
  · exact horigin.imp_right fun ⟨x, hx, hk⟩ => .part (h.tries x hx) hk
  · cases hk with
    | part ht hk => exact hcovers hc _ (h.mem_of_tries hc ht) _ hk
    | body => cases hr

/-- Winding up an attempt adds the failure of the matcher itself. -/
theorem counts_concluded (hF : cfg.memoize = true → Family rules F)
    (hm : cfg.memoize = true → F m)
    (hi : CountsInside rules tokens F m (announce m .entered s) e)
    (ht : Told rules tokens F m s (concluded cfg m s.cursor e)) :
    Counts rules tokens F m s (concluded cfg m s.cursor e) := by
  obtain ⟨hcounted, hgrows, horigin, hcovers⟩ := hi
  rw [deepest_announce] at hgrows horigin
  rw [cursor_announce] at horigin hcovers
  have horigin := horigin.imp_right NotedInside.noted
  rcases e with ⟨(p | a) | r, s'⟩
  · -- the failure is the matcher's own
    have hy : Yields rules tokens m s.cursor (.failed p) := by
      cases ht with
      | backtrack _ yields _ => exact yields
    have hk : ∀ k, Noted rules tokens m s.cursor k → k ≤ max s'.deepest p := by
      intro k hk
      rcases noted_iff.mp hk with h | h
      · cases hy.unique h
        exact Nat.le_max_right _ _
      · exact Nat.le_trans (hcovers rfl k h) (Nat.le_max_left _ _)
    have hc := (State.Alike.moveTo s' s.cursor).counted hcounted
    have hc := (State.Alike.announce _ m (.failed p)).counted (hc.recordFailure p)
    refine ⟨hc.keep hF hm hy (by simpa using hk), ?_, ?_, fun _ => by simpa [concluded] using hk⟩
    · simpa [concluded] using Nat.le_trans hgrows (Nat.le_max_left _ _)
    · simp only [concluded, deepest_keep, deepest_announce, State.deepest_recordFailure,
        State.deepest_moveTo]
      rcases Nat.le_total s'.deepest p with hle | hle
      · rw [Nat.max_eq_right hle]
        exact .inr hy.noted
      · rw [Nat.max_eq_left hle]
        exact horigin
  · exact ⟨(State.Alike.moveTo s' s.cursor).counted hcounted, hgrows, horigin, nofun⟩
  · -- a match has no failure of its own
    have hy : Yields rules tokens m s.cursor r.answer := by
      cases ht with
      | ok _ yields _ => exact yields
    have hk : ∀ k, Noted rules tokens m s.cursor k → k ≤ s'.deepest := by
      intro k hk
      rcases noted_iff.mp hk with h | h
      · cases hy.unique h
      · exact hcovers rfl k h
    have hc := (State.Alike.announce s' m (.matched r.node)).counted hcounted
    refine ⟨hc.keep hF hm hy (by simpa using hk), ?_, ?_, fun _ => by simpa [concluded] using hk⟩
    · simpa [concluded] using hgrows
    · simpa [concluded] using horigin

/-- An attempt counts if trying what is inside does: what is remembered has been counted. -/
theorem counts_attempt_of_inside {enter : String → Attempt Match}
    (hF : cfg.memoize = true → Family rules F) (hm : cfg.memoize = true → F m)
    (hs : s.Counted rules tokens F) (ht : Told rules tokens F m s (attempt cfg enter m s))
    (hi : ∀ {s : State}, s.Counted rules tokens F →
      CountsInside rules tokens F m s (attemptShape cfg enter m.shape s)) :
    Counts rules tokens F m s (attempt cfg enter m s) := by
  rcases attempt_cases cfg enter m s with ⟨o, ho, -, ha⟩ | ⟨-, he⟩
  · -- nothing is tried again, but all of it was counted when the outcome was remembered
    obtain ⟨hc, ho⟩ := remembered?_eq_some_iff.mp ho
    refine ⟨ha.toAlike.counted hs, Nat.le_of_eq ha.deepest_eq.symm, .inl ha.deepest_eq,
      fun _ k hk => ?_⟩
    rw [ha.deepest_eq]
    exact hs.counted (hm hc) ho hk
  · rw [he] at ht ⊢
    exact counts_concluded hF hm (hi ((State.Alike.announce s m .entered).counted hs)) ht

/-- **The furthest failure.** -/
theorem counts_attempt (hF : cfg.memoize = true → Family rules F) :
    ∀ (depth : Nat) (m : Matcher), (cfg.memoize = true → F m) → ∀ {s : State},
      s.Counted rules tokens F →
        Counts rules tokens F m s (attempt cfg (enterRule cfg rules depth) m s) := by
  refine induction_entering rules ?parts ?stuck ?body
  case parts =>
    intro depth m hr ih hm s hs
    refine counts_attempt_of_inside hF hm hs (tells_attempt hF depth hm hs.toTruthful) ?_
    intro s hs
    obtain ⟨l, hl⟩ := treads_attemptShape hr (tells_parts hF depth hm) hs.toTruthful
    exact hl.countsInside hs hr fun m' hm' _ hs => ih m' hm' (part_of_memoize hF hm m' hm') hs
  case stuck =>
    intro depth i name hstuck hm s hs
    refine counts_attempt_of_inside hF hm hs (tells_attempt hF depth hm hs.toTruthful) ?_
    intro s hs
    show CountsInside rules tokens F ⟨i, .rule name⟩ s (enterRule cfg rules depth name s)
    obtain ⟨c, he⟩ := enterRule_stuck cfg hstuck s
    rw [he]
    exact ⟨hs, Nat.le_refl _, .inl rfl, nofun⟩
  case body =>
    intro depth i name body hb ih hm s hs
    refine counts_attempt_of_inside hF hm hs (tells_attempt hF _ hm hs.toTruthful) ?_
    intro s hs
    show CountsInside rules tokens F ⟨i, .rule name⟩ s (enterRule cfg rules (depth + 1) name s)
    obtain ⟨hc, ha⟩ := enterRule_of_lookup cfg depth s hb
    have hbody := ih (fun hc => (hF hc).body hb)
      ((State.Alike.report s (.rule name) .entered).counted hs)
    refine ⟨ha.counted hbody.counted, ha.deepest_eq ▸ hbody.grows, ?_, fun hn k hk => ?_⟩
    · rw [ha.deepest_eq]
      exact hbody.origin.imp_right (.body hb)
    · rw [ha.deepest_eq]
      cases hk with
      | part ht => exact absurd ht not_tries_rule
      | body hb' hk =>
          cases hb.symm.trans hb'
          exact hbody.covers (hc ▸ hn) k hk

/-- Attempts of one matcher at one position that are not aborted come to the same furthest failure,
if nothing failed before. -/
theorem Counts.deepest_eq {F' : Matcher → Prop} (h : Counts rules tokens F m s e)
    (h' : Counts rules tokens F' m s' e') (hp : s.cursor = s'.cursor) (hs : s.deepest = 0)
    (hs' : s'.deepest = 0) (hc : cause? e = none) (hc' : cause? e' = none) :
    e.2.deepest = e'.2.deepest := by
  apply Nat.le_antisymm
  · rcases h.origin with h₀ | hk
    · exact h₀ ▸ hs ▸ Nat.zero_le _
    · exact h'.covers hc' _ (hp ▸ hk)
  · rcases h'.origin with h₀ | hk
    · exact h₀ ▸ hs' ▸ Nat.zero_le _
    · exact h.covers hc _ (hp ▸ hk)

end Packrat
