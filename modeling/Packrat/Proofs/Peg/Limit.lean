import Packrat.Proofs.Memo.Closed
import Packrat.Proofs.Peg.Adequacy
import Packrat.Proofs.Peg.Verdict

/-!
# Proofs — Peg — Limit

How many rules may be nested is seen only where that is exceeded.  No choice point, lookahead or
repetition catches the abort, so an attempt that is not aborted came to what its matcher yields,
and with a higher limit it comes to the same.

* `cause?_attempt_of_le`: an attempt that is not aborted is not aborted where more rules may be
  entered.
* `Reachable.result_parse_eq`: two parses that are not aborted have the same result, whatever they
  remember and however deep they may go.

**The limit** (`result_parse_of_le`): a parse that does not exceed the depth has the same result
with any higher limit.
-/

namespace Packrat

open Attempt

variable {rules : List (String × Matcher)} {tokens : List Token} {F : Matcher → Prop}
  {m : Matcher} {s s' : State} {d d' : Nat}

/-- Without a memo, the rules that are entered in an attempt that is not aborted bound those that
have to be. -/
theorem cause?_attempt_of_lt {cfg cfg' : Config} (hcfg : cfg.memoize = false)
    (hcfg' : cfg'.memoize = false) (hs : s.tokens = tokens.toArray)
    (hs' : s'.tokens = tokens.toArray) (hp : s.cursor = s'.cursor) (hd : d < d')
    (hc : cause? (attempt cfg (enterRule cfg rules d) m s) = none) :
    cause? (attempt cfg' (enterRule cfg' rules d') m s') = none := by
  have hnone : ∀ {P : Prop}, cfg'.memoize = true → P := fun h => by simp [hcfg'] at h
  have hb : Bounded rules tokens d m s.cursor := bounded_of_plain cfg hcfg d m s hs hc
  exact cause?_attempt_of_bounded hnone d' m hnone (.of_tokens hs') (hp ▸ hb) hd

/-- **No abort where more rules may be entered.**  With a memo the two attempts are compared part by
part, without one by what is visited. -/
theorem cause?_attempt_of_le (hF : Family rules F) (hm : F m) (hd : d ≤ d') (memoize : Bool)
    (limit limit' : Nat) (h : s'.Ahead rules tokens F s) (hp : s.cursor = s'.cursor)
    (hc : cause? (attempt ⟨memoize, limit⟩ (enterRule ⟨memoize, limit⟩ rules d) m s) = none) :
    cause? (attempt ⟨memoize, limit'⟩ (enterRule ⟨memoize, limit'⟩ rules d') m s') = none := by
  cases memoize with
  | true => exact cause?_attempt_of_ahead rfl rfl hF d m hm hd h hp hc
  | false =>
      have hs := h.behind.tokens_eq
      have hs' := h.closed.tokens_eq
      rcases Nat.eq_or_lt_of_le hd with rfl | hlt
      · exact cause?_attempt_of_plain ⟨false, limit⟩ rfl of_not_memoizing d m of_not_memoizing s s'
          hs (.of_tokens hs') hp hc
      · exact cause?_attempt_of_lt rfl rfl hs hs' hp hlt hc

namespace Workshop.Reachable

variable {w : Workshop} {g : Grammar}

/-- The same for the root, whether or not somebody listens. -/
theorem cause?_root_of_le (hw : w.Reachable) (hg : g ∈ w.grammars) (memoize : Bool)
    (tokens : List Token) (hd : d ≤ d') (listening listening' : Bool)
    (hc : cause? (attemptWith ⟨memoize, d⟩ g.rules g.root (.start tokens listening)) = none) :
    cause? (attemptWith ⟨memoize, d'⟩ g.rules g.root (.start tokens listening')) = none := by
  have hahead : (State.start tokens listening').Ahead g.rules tokens w.Known
      (.start tokens listening) :=
    ⟨State.closed_start listening', State.closed_start listening,
      fun _ hq => absurd hq (State.not_holds_start listening)⟩
  exact cause?_attempt_of_le (hw.family hg) (.root hg) hd memoize d d' hahead rfl hc

/-- Parses that are not aborted have the same result. -/
theorem result_parse_eq (hw : w.Reachable) (hg : g ∈ w.grammars) {cfg cfg' : Config}
    {tokens : List Token} {listening listening' : Bool}
    (hc : cause? (attemptWith cfg g.rules g.root (.start tokens listening)) = none)
    (hc' : cause? (attemptWith cfg' g.rules g.root (.start tokens listening')) = none) :
    (g.parse cfg' listening' tokens).result = (g.parse cfg listening tokens).result := by
  have hd := (hw.counts_root hg cfg' tokens listening').deepest_eq
    (hw.counts_root hg cfg tokens listening) rfl rfl rfl hc' hc
  exact verdict_eq (hw.told_root hg _ _ _) (hw.told_root hg _ _ _) rfl hc' hc hd

end Workshop.Reachable

/-- **The limit.** -/
theorem result_parse_of_le {w : Workshop} (hw : w.Reachable) {g : Grammar} (hg : g ∈ w.grammars)
    (tokens : List Token) (memoize : Bool) {d d' : Nat} (hd : d ≤ d')
    (listening listening' : Bool)
    (hdepth : ∀ p limit, (g.parse ⟨memoize, d⟩ listening tokens).result ≠
      .error (.aborted (.depthExceeded p limit))) :
    (g.parse ⟨memoize, d'⟩ listening' tokens).result =
      (g.parse ⟨memoize, d⟩ listening tokens).result := by
  have hc := hw.cause?_root_eq_none hg hdepth
  exact hw.result_parse_eq hg hc (hw.cause?_root_of_le hg memoize tokens hd listening listening' hc)

/-- Two pairs of parentheses take three rules: the innermost one is tried and fails. -/
theorem nested_parentheses_parse_alike :
    let inner : Matcher := ⟨1, .optional ⟨0, .rule "nest"⟩⟩
    let nest : Matcher := ⟨4, .sequence [⟨2, .literal "("⟩, inner, ⟨3, .literal ")"⟩]⟩
    let w := (((Workshop.opened 0).called (.optional (.node (.rule "nest")))).defined "nest"
      (.many [.text "(", .matcher inner, .text ")"])).built "nest"
    let g : Grammar := ⟨⟨6, .rule "nest"⟩, [("nest", nest)], ["nest"]⟩
    let opening : Token := .ofText .punctuator "(" .origin
    let closing : Token := .ofText .punctuator ")" .origin
    let tokens := [opening, opening, closing, closing]
    w.Reachable ∧ g ∈ w.grammars ∧ (g.parse ⟨false, 3⟩ false tokens).result.toBool = true ∧
      (g.parse ⟨false, 256⟩ true tokens).result = (g.parse ⟨false, 3⟩ false tokens).result := by
  intro inner nest w g opening closing tokens
  have hinner := Workshop.Reachable.called (.optional (.node (.rule "nest"))) (.opened 0) nofun
  have hnest := hinner.defined "nest" (.many [.text "(", .matcher inner, .text ")"])
    (List.forall_mem_singleton.mpr (.made List.mem_cons_self))
  have hw : w.Reachable := hnest.built "nest"
  have hg : g ∈ w.grammars := List.mem_singleton_self g
  have hok : (g.parse ⟨false, 3⟩ false tokens).result.toBool = true := by decide +kernel
  refine ⟨hw, hg, hok, result_parse_of_le hw hg tokens false (by decide) false true ?_⟩
  intro p limit h
  rw [h] at hok
  cases hok

end Packrat
