import Packrat.Proofs.Peg.Verdict

/-!
# Proofs — Memo — Transparency

Remembering outcomes changes no result.  An attempt with a memo and one without answer what the
matcher yields, so they agree where both answer, and with a memo no attempt is aborted that is not
aborted without one.  An error shows the furthest failure, too: this is the furthest of all on the
way, whether or not they were tried again.

**Transparency** (`result_parse_memoize`): unless parsing without a memo exceeds the depth, parsing
with one has the same result.
-/

namespace Packrat

open Attempt

/-- **Transparency.** -/
theorem result_parse_memoize {w : Workshop} (hw : w.Reachable) {g : Grammar} (hg : g ∈ w.grammars)
    (tokens : List Token) (maxDepth : Nat) (listening listening' : Bool)
    (hdepth : ∀ p limit, (g.parse ⟨false, maxDepth⟩ listening tokens).result ≠
      .error (.aborted (.depthExceeded p limit))) :
    (g.parse ⟨true, maxDepth⟩ listening' tokens).result =
      (g.parse ⟨false, maxDepth⟩ listening tokens).result := by
  -- without a memo: an abort would be the result, or a rule would be missing
  have hc : cause? (attemptWith ⟨false, maxDepth⟩ g.rules g.root (.start tokens listening)) =
      none := by
    cases hc : cause? (attemptWith ⟨false, maxDepth⟩ g.rules g.root (.start tokens listening)) with
    | none => rfl
    | some c =>
        cases c with
        | depthExceeded p limit => exact absurd (verdict_of_cause? hc) (hdepth p limit)
        | undefinedRule name => exact absurd hc (hw.root_not_undefinedRule hg _ _ _ name)
  have hc' : cause? (attemptWith ⟨true, maxDepth⟩ g.rules g.root (.start tokens listening')) =
      none :=
    cause?_attempt_of_plain ⟨false, maxDepth⟩ rfl (fun _ => hw.family hg) maxDepth g.root
      (fun _ => .root hg) (.start tokens listening) _ rfl
      (State.counted_start g.rules tokens w.Known listening').toTruthful rfl hc
  have hd := (hw.counts_root hg ⟨true, maxDepth⟩ tokens listening').deepest_eq
    (hw.counts_root hg ⟨false, maxDepth⟩ tokens listening) rfl rfl rfl hc' hc
  exact verdict_eq (hw.told_root hg _ _ _) (hw.told_root hg _ _ _) rfl hc' hc hd

/-- A choice whose alternatives begin with the same rule: the second is given its outcome. -/
theorem choice_with_shared_start_parses_alike :
    let start : Input := .node (.rule "start")
    let choice : Matcher := ⟨6, .firstOf [
      ⟨2, .sequence [⟨0, .rule "start"⟩, ⟨1, .literal "b"⟩]⟩,
      ⟨5, .sequence [⟨3, .rule "start"⟩, ⟨4, .literal "c"⟩]⟩]⟩
    let w := ((((Workshop.opened 0).called
      (.firstOf [.many [start, .text "b"], .many [start, .text "c"]])).defined
      "choice" (.matcher choice)).defined "start" (.text "a")).built "choice"
    let g : Grammar := ⟨⟨10, .rule "choice"⟩, [("choice", choice), ("start", ⟨8, .literal "a"⟩)],
      ["choice", "start"]⟩
    let tokens : List Token :=
      [.ofText .identifier "a" .origin, .ofText .identifier "c" .origin]
    w.Reachable ∧ g ∈ w.grammars ∧ (g.parse ⟨false, 2⟩ false tokens).result.toBool = true ∧
      (g.parse ⟨true, 2⟩ true tokens).result = (g.parse ⟨false, 2⟩ false tokens).result := by
  intro start choice w g tokens
  have hw : w.Reachable := by
    refine .built _ (.defined _ _ (.defined _ _ (.called _ (.opened 0) nofun) ?_) nofun)
    intro m hm
    rw [List.eq_of_mem_singleton hm]
    exact .made (List.mem_singleton_self choice)
  have hg : g ∈ w.grammars := List.mem_singleton_self g
  have hok : (g.parse ⟨false, 2⟩ false tokens).result.toBool = true := by decide +kernel
  refine ⟨hw, hg, hok, result_parse_memoize hw hg tokens 2 false true fun p limit h => ?_⟩
  rw [h] at hok
  cases hok

end Packrat
