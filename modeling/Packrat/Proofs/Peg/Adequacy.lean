import Packrat.Proofs.Peg.Aborts

/-!
# Proofs — Peg — Adequacy

Attempts and `Yields` agree.  By soundness an attempt that is not aborted answers what its matcher
yields.  For the other direction, a derivation bounds the rules that have to be entered, and with
that many the attempt is not aborted.

**Adequacy** (`attemptWith_adequate`): a matcher yields at most one answer, every answer of an
attempt is yielded, and every answer that is yielded is given by all attempts from some depth on.
-/

namespace Packrat

open Attempt

variable {rules : List (String × Matcher)} {tokens : List Token} {F : Matcher → Prop}
  {cfg : Config} {m : Matcher} {s : State}

theorem of_not_memoizing {P : Prop} {maxDepth : Nat} :
    (⟨false, maxDepth⟩ : Config).memoize = true → P :=
  nofun

/-- An attempt that is not aborted has an outcome, and it is what the matcher yields. -/
theorem outcome_of_cause? {depth : Nat} (hF : cfg.memoize = true → Family rules F)
    (hm : cfg.memoize = true → F m) (h : s.Truthful rules tokens F)
    (hc : cause? (attempt cfg (enterRule cfg rules depth) m s) = none) :
    ∃ o, ((attempt cfg (enterRule cfg rules depth) m).outcome s).1 = .ok o ∧
      Yields rules tokens m s.cursor o.answer := by
  have ht := tells_attempt hF depth hm h
  simp only [Attempt.outcome]
  generalize attempt cfg (enterRule cfg rules depth) m s = e at hc ht ⊢
  cases ht with
  | ok _ yields _ => exact ⟨_, rfl, yields⟩
  | backtrack _ yields _ => exact ⟨_, rfl, yields⟩
  | abort => cases hc

theorem cause?_of_outcome {x : Attempt Match} {o : Outcome} (h : (x.outcome s).1 = .ok o) :
    cause? (x s) = none := by
  simp only [Attempt.outcome] at h
  split at h
  · next he => rw [he]; rfl
  · next he => rw [he]; rfl
  · cases h

/-- **Adequacy**, for matchers over the rules of any grammar, tried in any state over the tokens
without remembering anything. -/
theorem attemptWith_adequate (g : Grammar) (m : Matcher) (tokens : List Token) (p : Nat) :
    (∀ o o', Yields g.rules tokens m p o → Yields g.rules tokens m p o' → o = o') ∧
    (∀ maxDepth (s : State), s.tokens = tokens.toArray → s.cursor = p →
      ∀ o, ((attemptWith ⟨false, maxDepth⟩ g.rules m).outcome s).1 = .ok o →
        Yields g.rules tokens m p o.answer) ∧
    (∀ o, Yields g.rules tokens m p o → ∃ depth, ∀ maxDepth ≥ depth, ∀ s : State,
      s.tokens = tokens.toArray → s.cursor = p →
        ∃ o', ((attemptWith ⟨false, maxDepth⟩ g.rules m).outcome s).1 = .ok o' ∧
          o'.answer = o) := by
  refine ⟨fun _ _ => Yields.unique, ?_, ?_⟩
  · rintro maxDepth s hs rfl o ho
    have hc := cause?_of_outcome ho
    have h : s.Truthful g.rules tokens fun _ => False := State.Truthful.of_tokens hs
    obtain ⟨o', ho', hy⟩ := outcome_of_cause? of_not_memoizing of_not_memoizing h hc
    cases ho.symm.trans ho'
    exact hy
  · intro o hy
    obtain ⟨d, hd⟩ := hy.bounded
    refine ⟨d + 1, ?_⟩
    rintro maxDepth hle s hs rfl
    have h : s.Truthful g.rules tokens fun _ => False := State.Truthful.of_tokens hs
    -- the derivation bounds the rules entered, so nothing is aborted; then soundness applies
    have hc : cause? (attemptWith ⟨false, maxDepth⟩ g.rules m s) = none :=
      cause?_attempt_of_bounded of_not_memoizing maxDepth m of_not_memoizing h hd hle
    obtain ⟨o', ho', hy'⟩ := outcome_of_cause? of_not_memoizing of_not_memoizing h hc
    exact ⟨o', ho', hy'.unique hy⟩

/-- Parentheses in parentheses: a derivation, and attempts that come to its answer. -/
theorem nested_parentheses_answered :
    let nest : Matcher := ⟨4, .sequence [⟨0, .literal "("⟩, ⟨2, .optional ⟨1, .rule "nest"⟩⟩,
      ⟨3, .literal ")"⟩]⟩
    let g : Grammar := ⟨⟨5, .rule "nest"⟩, [("nest", nest)], ["nest"]⟩
    let opening : Token := .ofText .punctuator "(" .origin
    let closing : Token := .ofText .punctuator ")" .origin
    let tokens := [opening, opening, closing, closing]
    ∃ n, Yields g.rules tokens g.root 0 (.matched n [] 4) ∧
      ∃ depth, ∀ maxDepth ≥ depth, ∀ s : State, s.tokens = tokens.toArray → s.cursor = 0 →
        ∃ o, ((attemptWith ⟨false, maxDepth⟩ g.rules g.root).outcome s).1 = .ok o ∧
          o.answer = .matched n [] 4 := by
  intro nest g opening closing tokens
  have hnone : Yields g.rules tokens ⟨1, .rule "nest"⟩ 2 (.failed 2) := by
    refine .rule_fails rfl (.sequence_head_fails (.literal_fails ?_))
    rintro t ⟨⟩
    decide
  have hinner : Yields g.rules tokens ⟨1, .rule "nest"⟩ 1 (.matched _ [] 3) :=
    .rule rfl (.sequence_cons (.literal rfl rfl) (.sequence_cons (.optional_none hnone)
      (.sequence_cons (.literal rfl rfl) .sequence_nil)))
  have houter : Yields g.rules tokens g.root 0 (.matched _ [] 4) :=
    .rule rfl (.sequence_cons (.literal rfl rfl) (.sequence_cons (.optional hinner)
      (.sequence_cons (.literal rfl rfl) .sequence_nil)))
  exact ⟨_, houter, (attemptWith_adequate g g.root tokens 0).2.2 _ houter⟩

end Packrat
