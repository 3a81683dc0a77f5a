import Packrat.Proofs.Peg.Trail

/-!
# Proofs — Peg — Aborts

When attempts are aborted.  The cause comes from a part that was tried or from the body of a rule
that was entered, so each of these goes by induction over the rules that may still be entered and
over the parts.

* `cause?_attempt_of_bounded_le`: not if no more rules have to be entered than may be.
* `bounded_of_plain`: conversely, only then, where nothing is remembered.
* `not_undefinedRule`: not for an undefined rule, if all references are resolved.
* `limit_of_depthExceeded`: for the depth only with the limit that was set.
* `cause?_attempt_of_plain`: not with a memo, if not without one.
-/

namespace Packrat

open Attempt

variable {rules : List (String × Matcher)} {tokens : List Token} {F : Matcher → Prop}
  {cfg : Config} {m : Matcher} {s : State}

/-- **No abort within the bound.** -/
theorem cause?_attempt_of_bounded_le (hF : cfg.memoize = true → Family rules F) :
    ∀ (depth : Nat) (m : Matcher), (cfg.memoize = true → F m) → ∀ {d : Nat} {s : State},
      s.Truthful rules tokens F → Bounded rules tokens d m s.cursor → d ≤ depth →
      cause? (attempt cfg (enterRule cfg rules depth) m s) = none := by
  refine induction_entering rules ?parts ?stuck ?body
  case parts =>
    intro depth m hr ih hm d s h hb hd
    cases hc : cause? (attempt cfg (enterRule cfg rules depth) m s) with
    | none => rfl
    | some c =>
        obtain ⟨m₁, s₀, ht, h₀, hc₀⟩ :=
          exists_tries_aborted hr (tells_parts hF depth hm) h hc
        have hm₁ := part_of_memoize hF hm m₁ ht.mem_parts
        rw [ih m₁ ht.mem_parts hm₁ h₀ (hb.of_tries ht) hd] at hc₀
        cases hc₀
  case stuck =>
    intro depth i name hs _ d s _ hb hd
    have hdefined := (hb _ _ _ .here).2 _ _ rfl
    rcases hs with rfl | hn
    · -- the rule is defined, so entering it takes a depth of one
      obtain ⟨body, hbody⟩ := Option.ne_none_iff_exists'.mp hdefined
      obtain rfl := Nat.le_zero.mp hd
      exact absurd hb (not_bounded_zero_of_lookup hbody)
    · exact absurd hn hdefined
  case body =>
    intro depth i name body hbody ih _ d s h hb hd
    rcases attempt_cases cfg (enterRule cfg rules (depth + 1)) ⟨i, .rule name⟩ s with
      ⟨_, -, hn, -⟩ | ⟨hs, -⟩
    · exact hn
    · obtain ⟨s₀, hp, ha, hc⟩ := cause?_attempt_rule depth hbody hs
      rw [hc]
      cases d with
      | zero => exact absurd hb (not_bounded_zero_of_lookup hbody)
      | succ d =>
          exact ih (fun hc => (hF hc).body hbody) (ha.truthful h) (hp ▸ hb.of_body hbody)
            (Nat.le_of_succ_le_succ hd)

theorem cause?_attempt_of_bounded (hF : cfg.memoize = true → Family rules F) (depth : Nat)
    (m : Matcher) (hm : cfg.memoize = true → F m) {d : Nat} {s : State}
    (h : s.Truthful rules tokens F) (hb : Bounded rules tokens d m s.cursor) (hd : d < depth) :
    cause? (attempt cfg (enterRule cfg rules depth) m s) = none :=
  cause?_attempt_of_bounded_le hF depth m hm h hb (Nat.le_of_lt hd)

/-- **No undefined rule**, where the matcher and all bodies refer only to rules that are defined. -/
theorem not_undefinedRule (hF : cfg.memoize = true → Family rules F)
    (hbody : ∀ {name body}, rules.lookup name = some body → body.Resolved rules) :
    ∀ (depth : Nat) (m : Matcher), (cfg.memoize = true → F m) → m.Resolved rules →
      ∀ {s : State}, s.Truthful rules tokens F → ∀ name,
        cause? (attempt cfg (enterRule cfg rules depth) m s) ≠ some (.undefinedRule name) := by
  refine induction_entering rules ?parts ?stuck ?body
  case parts =>
    intro depth m hr ih hm hres s h name hc
    obtain ⟨m₁, s₀, ht, h₀, hc₀⟩ := exists_tries_aborted hr (tells_parts hF depth hm) h hc
    have hm₁ := part_of_memoize hF hm m₁ ht.mem_parts
    exact ih m₁ ht.mem_parts hm₁ (hres.part ht.mem_parts) h₀ name hc₀
  case stuck =>
    intro depth i name hs _ hres s _ name' hc
    have hn := hres name (List.mem_singleton_self name)
    have hd := hs.resolve_right hn
    subst hd
    -- the name is defined, so what is missing is the depth
    rw [attempt_of_remembered?_eq_none (remembered?_eq_none_of_cause? hc)] at hc
    cases hc
  case body =>
    intro depth i name body hb ih _ _ s h name' hc
    obtain ⟨s₀, -, ha, he⟩ :=
      cause?_attempt_rule depth hb (remembered?_eq_none_of_cause? hc)
    rw [he] at hc
    exact ih (fun hc => (hF hc).body hb) (hbody hb) (ha.truthful h) name' hc

/-- **The limit that is reported** is the one of the configuration. -/
theorem limit_of_depthExceeded (hF : cfg.memoize = true → Family rules F) :
    ∀ (depth : Nat) (m : Matcher), (cfg.memoize = true → F m) → ∀ {s : State},
      s.Truthful rules tokens F → ∀ p limit, cause? (attempt cfg (enterRule cfg rules depth) m s) =
        some (.depthExceeded p limit) → limit = cfg.maxDepth := by
  refine induction_entering rules ?parts ?stuck ?body
  case parts =>
    intro depth m hr ih hm s h p limit hc
    obtain ⟨m₁, s₀, ht, h₀, hc₀⟩ := exists_tries_aborted hr (tells_parts hF depth hm) h hc
    have hm₁ := part_of_memoize hF hm m₁ ht.mem_parts
    exact ih m₁ ht.mem_parts hm₁ h₀ p limit hc₀
  case stuck =>
    intro depth i name hs _ s _ p limit hc
    rw [attempt_of_remembered?_eq_none (remembered?_eq_none_of_cause? hc), cause?_concluded] at hc
    change cause? (enterRule cfg rules depth name _) = _ at hc
    cases depth with
    | zero => cases hc; rfl
    | succ depth =>
        have hn := hs.resolve_left (Nat.succ_ne_zero depth)
        simp only [enterRule, hn] at hc
        cases hc
  case body =>
    intro depth i name body hb ih _ s h p limit hc
    obtain ⟨s₀, -, ha, he⟩ :=
      cause?_attempt_rule depth hb (remembered?_eq_none_of_cause? hc)
    rw [he] at hc
    exact ih (fun hc => (hF hc).body hb) (ha.truthful h) p limit hc

/-- **The bound of an attempt.**  Without a memo everything that is visited is tried, so an attempt
that is not aborted enters no more rules than may be entered. -/
theorem bounded_of_plain (plain : Config) (hplain : plain.memoize = false) :
    ∀ (depth : Nat) (m : Matcher) (s : State), s.tokens = tokens.toArray →
      cause? (attempt plain (enterRule plain rules depth) m s) = none →
      Bounded rules tokens depth m s.cursor := by
  have hfresh : ∀ m s, remembered? plain m s = none := fun m s => by simp [remembered?, hplain]
  have hnone : ∀ {P : Prop}, plain.memoize = true → P := fun h => by simp [hplain] at h
  refine induction_entering rules ?parts ?stuck ?body
  case parts =>
    intro depth m hr ih s hs hc
    refine bounded_of_forall_tries hr fun m₁ p₁ ht => ?_
    obtain ⟨s₁, hp₁, h₁, hc₁⟩ := forall_tries_not_aborted hr
      (tells_parts hnone depth hnone) (.of_tokens hs) (hfresh m s) hc ht
    exact hp₁ ▸ ih m₁ ht.mem_parts s₁ h₁.tokens_eq hc₁
  case stuck =>
    intro depth i name hstuck s _ hc
    obtain ⟨c, hc'⟩ := exists_cause?_of_stuck hstuck (hfresh _ s)
    rw [hc] at hc'
    cases hc'
  case body =>
    intro depth i name body hb ih s hs hc
    obtain ⟨s₁, hp₁, ha, he⟩ := cause?_attempt_rule depth hb (hfresh _ s)
    rw [he] at hc
    exact hp₁ ▸ bounded_rule hb (ih s₁ (ha.tokens_eq.trans hs) hc)

/-- **A memo aborts nothing.**  The attempts of parts that are made without one are all there are,
so none of those that are made with one is aborted. -/
theorem cause?_attempt_of_plain (plain : Config) (hplain : plain.memoize = false)
    (hF : cfg.memoize = true → Family rules F) :
    ∀ (depth : Nat) (m : Matcher), (cfg.memoize = true → F m) → ∀ s s' : State,
      s.tokens = tokens.toArray → s'.Truthful rules tokens F → s.cursor = s'.cursor →
      cause? (attempt plain (enterRule plain rules depth) m s) = none →
      cause? (attempt cfg (enterRule cfg rules depth) m s') = none := by
  have hfresh : ∀ m s, remembered? plain m s = none := fun m s => by simp [remembered?, hplain]
  have hnone : ∀ {P : Prop}, plain.memoize = true → P := fun h => by simp [hplain] at h
  refine induction_entering rules ?parts ?stuck ?body
  case parts =>
    intro depth m hr ih hm s s' hs h' hp hc
    cases hc' : cause? (attempt cfg (enterRule cfg rules depth) m s') with
    | none => rfl
    | some c =>
        obtain ⟨m₁, s₁', ht, h₁', hc₁'⟩ :=
          exists_tries_aborted hr (tells_parts hF depth hm) h' hc'
        rw [← hp] at ht
        -- without a memo the same part was tried at the same position
        obtain ⟨s₁, hp₁, h₁, hc₁⟩ := forall_tries_not_aborted hr
          (tells_parts hnone depth hnone) (.of_tokens hs) (hfresh m s) hc ht
        have hm₁ := part_of_memoize hF hm m₁ ht.mem_parts
        rw [ih m₁ ht.mem_parts hm₁ _ _ h₁.tokens_eq h₁' hp₁ hc₁] at hc₁'
        cases hc₁'
  case stuck =>
    intro depth i name hstuck _ s s' _ _ _ hc
    obtain ⟨c, hc'⟩ := exists_cause?_of_stuck hstuck (hfresh _ s)
    rw [hc] at hc'
    cases hc'
  case body =>
    intro depth i name body hb ih _ s s' hs h' hp hc
    rcases attempt_cases cfg (enterRule cfg rules (depth + 1)) ⟨i, .rule name⟩ s' with
      ⟨_, -, hn, -⟩ | ⟨hs', -⟩
    · exact hn
    · obtain ⟨s₁, hp₁, ha, he⟩ := cause?_attempt_rule depth hb (hfresh _ s)
      obtain ⟨s₁', hp₁', ha', he'⟩ := cause?_attempt_rule depth hb hs'
      rw [he']
      rw [he] at hc
      exact ih (fun hc => (hF hc).body hb) _ _ (ha.tokens_eq.trans hs) (ha'.truthful h')
        (by rw [hp₁, hp, hp₁']) hc

end Packrat
